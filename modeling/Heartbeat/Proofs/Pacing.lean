import Heartbeat.Proofs.FirstRun
import Heartbeat.Proofs.NearestNumber
import Heartbeat.Proofs.NumberOrder

/-!
# Waiting between datagrams

Between two datagrams that go out one after the other a run writes the progress line of the first,
waits for the interval, and then meets what holds the second one up (`SendsAll.paced`). The wait is
left out in two cases only. A zero interval asks for none. An interval that is not a number passes
the check of its range, because no comparison with it holds, and a sleep of such a length is no wait
for the same reason, so that the datagrams go out back to back (`not_paced_without_number`).
-/

namespace Heartbeat

namespace Binary64

/-- Is this one of the two zeros? They are equal to each other, and to nothing else. -/
def IsZero (number : Binary64) : Prop := number ≤ 0 ∧ 0 ≤ number

instance : DecidablePred IsZero := fun _ => inferInstanceAs (Decidable (_ ∧ _))

/-- What is not negative is positive, a zero, or not a number. -/
theorem pos_iff_of_not_neg {number : Binary64} (h : ¬ number < 0) :
    0 < number ↔ number ≠ nan ∧ ¬ number.IsZero := by
  change ¬ number.lt 0 = true at h
  show lt 0 number = true ↔ _ ∧ ¬ (number.le 0 = true ∧ le 0 number = true)
  simp only [lt, le, position_zero] at h ⊢
  cases hposition : number.position with
  | none => simp [eq_nan_of_position hposition]
  | some x =>
      have hne : number ≠ nan := by
        rintro rfl
        cases hposition
      simp only [hposition, decide_eq_true_eq] at h ⊢
      constructor
      · intro hlt
        exact ⟨hne, by omega⟩
      · rintro ⟨-, hzero⟩
        omega

end Binary64

namespace Log

/-- What a log holds before the first datagram that goes out. -/
def Lead (log lead : List Event) : Prop :=
  ∃ datagram rest, log = lead ++ datagram :: rest ∧ datagram.isSent = true ∧
    ∀ event ∈ lead, event.isSent = false

/-- What a log holds between two datagrams that go out one after the other. -/
def Between (log between : List Event) : Prop :=
  ∃ earlier datagram later, log = earlier ++ datagram :: later ∧ datagram.isSent = true ∧
    Lead later between

section

variable {log first rest lead between : List Event}

theorem Lead.sentCount_pos (h : Lead log lead) : 0 < sentCount log := by
  obtain ⟨datagram, rest, rfl, hsent, -⟩ := h
  exact List.countP_pos_iff.mpr ⟨datagram, by simp, hsent⟩

theorem Between.one_lt_sentCount (h : Between log between) : 1 < sentCount log := by
  obtain ⟨earlier, datagram, later, rfl, hsent, hlead⟩ := h
  have hlater := hlead.sentCount_pos
  rw [sentCount_append, sentCount, sentCount, List.countP_cons_of_pos hsent]
  rw [sentCount] at hlater
  omega

/-- What comes before the first datagram begins with all that is no datagram. -/
theorem Lead.of_append (h : Lead (first ++ rest) lead)
    (hfirst : ∀ event ∈ first, event.isSent = false) :
    ∃ following, lead = first ++ following ∧ Lead rest following := by
  induction first generalizing lead with
  | nil => exact ⟨lead, rfl, h⟩
  | cons event first ih =>
      obtain ⟨datagram, after, hlog, hsent, hlead⟩ := h
      cases lead with
      | nil =>
          cases hlog
          rw [hfirst _ List.mem_cons_self] at hsent
          cases hsent
      | cons other lead =>
          obtain ⟨rfl, htail⟩ := List.cons.inj hlog
          obtain ⟨following, rfl, hfollowing⟩ :=
            ih ⟨datagram, after, htail, hsent, fun event hmem => hlead event (.tail _ hmem)⟩
              fun event hmem => hfirst event (.tail _ hmem)
          exact ⟨following, rfl, hfollowing⟩

theorem Lead.eq_nil_of_isSent {event : Event} (h : Lead (event :: rest) lead)
    (hsent : event.isSent = true) : lead = [] := by
  obtain ⟨datagram, after, hlog, -, hlead⟩ := h
  cases lead with
  | nil => rfl
  | cons other lead =>
      obtain ⟨rfl, -⟩ := List.cons.inj hlog
      rw [hlead _ List.mem_cons_self] at hsent
      cases hsent

theorem Between.of_cons {event : Event} (h : Between (event :: rest) between) :
    event.isSent = true ∧ Lead rest between ∨ Between rest between := by
  obtain ⟨earlier, datagram, later, hlog, hsent, hlead⟩ := h
  cases earlier with
  | nil =>
      cases hlog
      exact .inl ⟨hsent, hlead⟩
  | cons other earlier =>
      obtain ⟨-, hlog⟩ := List.cons.inj hlog
      exact .inr ⟨earlier, datagram, later, hlog, hsent, hlead⟩

theorem Between.of_append (h : Between (first ++ rest) between)
    (hfirst : ∀ event ∈ first, event.isSent = false) : Between rest between := by
  induction first with
  | nil => exact h
  | cons event first ih =>
      rcases h.of_cons with ⟨hsent, -⟩ | hrest
      · rw [hfirst _ List.mem_cons_self] at hsent
        cases hsent
      · exact ih hrest fun event hmem => hfirst event (.tail _ hmem)

end

end Log

namespace Sender

variable {hold : Bool} {sender final : Sender} {stage : Stage} {log : List Event}

/-- What a run goes through between two datagrams: the progress line of the first, the wait for the
interval if there is one, and setbacks of the second. -/
inductive Paced (config : Config) (destination : Endpoint) : List Event → Prop
  | waited {index : Nat} {setbacks : List Event}
      (hinterval : config.interval ≠ .nan ∧ ¬ config.interval.IsZero)
      (hsetbacks : ∀ event ∈ setbacks,
        event = .refused heartbeat destination ∨ event.isPause = true) :
      Paced config destination (.printed (progressText config.count index) ::
        .waited config.interval :: setbacks)
  | unwaited {index : Nat} {setbacks : List Event}
      (hinterval : config.interval = .nan ∨ config.interval.IsZero)
      (hsetbacks : ∀ event ∈ setbacks,
        event = .refused heartbeat destination ∨ event.isPause = true) :
      Paced config destination (.printed (progressText config.count index) :: setbacks)

/-- The wait for the interval takes place if there is an interval. -/
theorem paced_of_setbacks (index : Nat) {setbacks : List Event}
    (hsetbacks : ∀ event ∈ setbacks, Setback sender event) :
    Paced sender.config sender.destination
      (.printed (progressText sender.config.count index) ::
        (waitLog sender.config.interval ++ setbacks)) := by
  have hpos := Binary64.pos_iff_of_not_neg sender.config.interval_not_negative
  rw [waitLog]
  split
  · next hwait => exact .waited (hpos.mp hwait) hsetbacks
  · next hnone =>
      refine .unwaited ?_ hsetbacks
      rw [hpos] at hnone
      by_cases hnan : sender.config.interval = .nan
      · exact .inl hnan
      · exact .inr (Decidable.not_not.mp fun hzero => hnone ⟨hnan, hzero⟩)

theorem Sleeps.log_of_go {delay : Binary64} (h : Sleeps sender delay stage log (.ok false)) :
    log = waitLog delay := by
  cases h with
  | waited => rfl

theorem Setback.not_isSent {setbacks : List Event}
    (h : ∀ event ∈ setbacks, Setback sender event) : ∀ event ∈ setbacks, event.isSent = false :=
  fun event hmem => (h event hmem).isSent

theorem not_isSent_of_isPause {pause : List Event} (h : ∀ event ∈ pause, event.isPause = true) :
    ∀ event ∈ pause, event.isSent = false := by
  intro event hmem
  obtain ⟨seconds, rfl | rfl⟩ := Event.eq_of_isPause (h event hmem)
  · rfl
  · rfl

theorem sentCount_append_of_not_isSent {ending : List Event}
    (hending : ∀ event ∈ ending, event.isSent = false) :
    Log.sentCount (log ++ ending) = Log.sentCount log := by
  have hnone : Log.sentCount ending = 0 := by
    rw [Log.sentCount, List.countP_eq_zero]
    intro event hmem
    rw [hending event hmem]
    exact Bool.false_ne_true
  rw [Log.sentCount_append, hnone, Nat.add_zero]

/-- Before a datagram that goes out in the end there are setbacks. -/
theorem Sends.lead {delay : Binary64} {retries : Nat} {bytes : Int} {more lead : List Event}
    (h : Sends hold delay retries sender stage log (.ok (some bytes)) final)
    (hlead : Log.Lead (log ++ more) lead) : ∀ event ∈ lead, Setback sender event := by
  obtain ⟨setbacks, rfl, hsetbacks⟩ := h.log_eq
  rw [List.append_assoc] at hlead
  obtain ⟨following, rfl, hfollowing⟩ := hlead.of_append (Setback.not_isSent hsetbacks)
  rw [hfollowing.eq_nil_of_isSent rfl, List.append_nil]
  exact hsetbacks

/-- What stands between two datagrams is not before the first of them. -/
theorem Sends.between {delay : Binary64} {retries : Nat} {bytes : Int}
    {more between : List Event}
    (h : Sends hold delay retries sender stage log (.ok (some bytes)) final)
    (hbetween : Log.Between (log ++ more) between) :
    Log.Lead more between ∨ Log.Between more between := by
  obtain ⟨setbacks, rfl, hsetbacks⟩ := h.log_eq
  rw [List.append_assoc] at hbetween
  rcases (hbetween.of_append (Setback.not_isSent hsetbacks)).of_cons with ⟨-, hlead⟩ | hrest
  · exact .inl hlead
  · exact .inr hrest

/-- There are two datagrams on either side of what stands between them. -/
theorem not_between_of_le {ending between : List Event} (hle : Log.sentCount log ≤ 1)
    (hending : ∀ event ∈ ending, event.isSent = false) : ¬ Log.Between (log ++ ending) between := by
  intro hbetween
  have hlt := hbetween.one_lt_sentCount
  rw [sentCount_append_of_not_isSent hending] at hlt
  omega

/-! Whatever ends a run brings no further datagram, so that the log of its loop may be read
together with the ending. -/

/-- Before the first datagram of a run there are setbacks. -/
theorem SendsAll.lead {remaining : Nat} {result : Except SenderError Unit}
    {ending lead : List Event} (h : SendsAll hold remaining sender stage log result final)
    (hending : ∀ event ∈ ending, event.isSent = false) (hlead : Log.Lead (log ++ ending) lead) :
    ∀ event ∈ lead, Setback sender event := by
  have hpos := hlead.sentCount_pos
  rw [sentCount_append_of_not_isSent hending] at hpos
  cases h with
  | finished => cases hpos
  | stopped => cases hpos
  | failed _ hsend =>
      rw [hsend.sentCount_eq] at hpos
      cases hpos
  | abandoned _ hsend =>
      rw [hsend.sentCount_eq] at hpos
      cases hpos
  | notPaused _ hsend =>
      simp only [List.append_assoc] at hlead
      exact hsend.lead hlead
  | stoppedInPause _ hsend =>
      simp only [List.append_assoc] at hlead
      exact hsend.lead hlead
  | next _ hsend =>
      simp only [List.append_assoc] at hlead
      exact hsend.lead hlead

theorem SendsAll.paced {remaining : Nat} {result : Except SenderError Unit}
    {ending between : List Event} (h : SendsAll hold remaining sender stage log result final)
    (hending : ∀ event ∈ ending, event.isSent = false)
    (hbetween : Log.Between (log ++ ending) between) :
    Paced sender.config sender.destination between := by
  induction h with
  | @next remaining sender sent final stage log pause rest bytes result _ hsend hsleep hrest ih =>
      have hkeeps := turn_keeps hsend
      rw [hkeeps.config, hkeeps.destination] at ih
      simp only [List.append_assoc] at hbetween
      have hquiet : ∀ event ∈ [sent.progressEvent remaining] ++ pause, event.isSent = false := by
        intro event hmem
        rcases List.mem_append.mp hmem with hline | hpause
        · rw [List.mem_singleton.mp hline]
          rfl
        · exact not_isSent_of_isPause hsleep.isPause event hpause
      rcases hsend.between hbetween with hlead | hlater
      · rw [← List.append_assoc] at hlead
        obtain ⟨following, rfl, hfollowing⟩ := hlead.of_append hquiet
        have hsetbacks := hrest.lead hending hfollowing
        have hpaced := paced_of_setbacks (sent.config.count - (remaining + 1)) hsetbacks
        rw [countSent_config, ← hsleep.log_of_go, hkeeps.destination] at hpaced
        exact hkeeps.config ▸ hpaced
      · rw [← List.append_assoc] at hlater
        exact ih (hlater.of_append hquiet)
  | finished => exact absurd hbetween (not_between_of_le (Nat.zero_le 1) hending)
  | stopped => exact absurd hbetween (not_between_of_le (Nat.zero_le 1) hending)
  | failed _ hsend =>
      exact absurd hbetween (not_between_of_le (hsend.sentCount_eq ▸ Nat.zero_le 1) hending)
  | abandoned _ hsend =>
      exact absurd hbetween (not_between_of_le (hsend.sentCount_eq ▸ Nat.zero_le 1) hending)
  | notPaused _ hsend hsleep =>
      exact absurd hbetween (not_between_of_le (Nat.le_of_eq (turn_sentCount hsend hsleep)) hending)
  | stoppedInPause _ hsend hsleep =>
      exact absurd hbetween (not_between_of_le (Nat.le_of_eq (turn_sentCount hsend hsleep)) hending)

/-- A first run waits for the interval between any two datagrams that go out one after the other,
whatever else comes between them, unless the interval is a zero or not a number: then it does not
wait at all. -/
theorem firstRun_paced (hold given : Bool) (config : Config) (policy : RetryPolicy)
    (script : Script) (stops : Nat) (destination : Endpoint)
    (hready : Ready given config script destination) :
    ∃ act, firstRun hold given config policy script stops = some act ∧
      ∀ between, Log.Between act.events between → Paced config destination between := by
  obtain ⟨log, result, final, hrun⟩ := exists_runs hold { config, policy, destination }
    (openingStage given script stops)
  refine ⟨_, firstRun_of_runs hready hrun, ?_⟩
  intro between hbetween
  change Log.Between log between at hbetween
  obtain ⟨body, loopResult, loopFinal, ending, hsend, rfl, hending, -⟩ := hrun.exists_body
  have hquiet : ∀ event ∈ ending, event.isSent = false := by
    rcases hending with rfl | rfl
    · simp [Event.isSent]
    · simp [Event.isSent, completeEvent]
  exact hsend.paced hquiet hbetween

/-- The second of three datagrams is refused once. -/
theorem firstRun_paced_of_standard :
    ∃ destination, Ready false Config.standard
      { sends := [⟨.whole, 0⟩, ⟨.refused .silent, 0⟩] } destination ∧
    ∃ act, firstRun false false Config.standard { retries := 1 }
        { sends := [⟨.whole, 0⟩, ⟨.refused .silent, 0⟩] } 0 = some act ∧
      ∀ between, Log.Between act.events between →
        Paced Config.standard destination between := by
  have hready : Ready false Config.standard { sends := [⟨.whole, 0⟩, ⟨.refused .silent, 0⟩] }
      ⟨"127.0.0.1", 5556⟩ := ⟨by decide +kernel, rfl, rfl⟩
  exact ⟨_, hready, firstRun_paced false false Config.standard { retries := 1 } _ 0 _ hready⟩

/-- Two datagrams and an interval that is not a number, which passes the check of the ranges. -/
def unpacedConfig : Config :=
  { Config.standard with count := 2, interval := .nan, interval_not_negative := Bool.false_ne_true }

/-- An interval that is not a number is accepted and is no zero, but nothing is waited for: only the
progress line stands between the two datagrams. -/
theorem not_paced_without_number :
    Settings.check { count := 2, interval := .nan } = .ok unpacedConfig ∧
      ¬ unpacedConfig.interval.IsZero ∧
      ∃ act, firstRun false true unpacedConfig {} {} 0 = some act ∧
        ∃ between, Log.Between act.events between ∧ .waited unpacedConfig.interval ∉ between := by
  refine ⟨?_, by decide +kernel, ?_⟩
  · rw [Settings.check, dif_pos (by decide), if_neg (by decide), dif_neg (by decide +kernel),
      if_neg (by decide), dif_neg (by decide +kernel)]
    rfl
  · have hevents : (firstRun false true unpacedConfig {} {} 0).map Act.events =
        some [.sent heartbeat ⟨"127.0.0.1", 5556⟩ 8, .printed "0.00 %\n",
          .sent heartbeat ⟨"127.0.0.1", 5556⟩ 8, .printed "50.00 %\n", .printed "100.00 %\n",
          .closed] := by decide +kernel
    obtain ⟨act, hact, hlog⟩ := Option.map_eq_some_iff.mp hevents
    refine ⟨act, hact, [.printed "0.00 %\n"], ?_, by decide +kernel⟩
    rw [hlog]
    exact ⟨[], _, _, rfl, rfl, _, _, rfl, rfl, by decide⟩

end Sender

end Heartbeat
