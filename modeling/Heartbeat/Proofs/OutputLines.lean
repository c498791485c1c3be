import Mathlib.Algebra.GroupWithZero.Nat
import Mathlib.Data.List.DropRight
import Heartbeat.Proofs.NodeReports

/-!
# Newlines in the output of a watch

Every line that the watching command writes is meant to stand for one thing, and as long as no line
has a newline inside, the newlines of the output count the greeting, the reports and the lines of
the summary. Numbers have none, and a name has one only if the network or the command line gave it
one.

What is left are payloads. The line ends behind a payload are left out when it is shown, but those
inside it are not, so that a verbose report has as many newlines inside as the payload has before
its last other byte (`newlines_shownPayload`). The newlines of the output are counted with these
(`newlines_of_output`).
-/

namespace Heartbeat

/-- How many newlines a text has. -/
def newlines (text : String) : Nat := text.toList.count '\n'

theorem newlines_eq_zero {text : String} : newlines text = 0 ↔ '\n' ∉ text.toList :=
  List.count_eq_zero

theorem newlines_append (first rest : String) :
    newlines (first ++ rest) = newlines first + newlines rest := by
  rw [newlines, String.toList_append, List.count_append]
  rfl

/-! ## Numbers -/

theorem newline_notMem_toDigits (n : Nat) : '\n' ∉ Nat.toDigits 10 n := by
  intro hmem
  have hdigit := Nat.isDigit_of_mem_toDigits (by decide) (by decide) hmem
  cases hdigit

theorem newlines_natToString (n : Nat) : newlines (toString n) = 0 := by
  rw [newlines_eq_zero]
  show '\n' ∉ n.repr.toList
  rw [Nat.toList_repr]
  exact newline_notMem_toDigits n

theorem newlines_intToString (n : Int) : newlines (toString n) = 0 := by
  cases n with
  | ofNat n => exact newlines_natToString n
  | negSucc n =>
      show newlines ("-" ++ toString (n + 1)) = 0
      rw [newlines_append, newlines_natToString]
      rfl

namespace Binary64

theorem newline_notMem_signMark (negative : Bool) : '\n' ∉ signMark negative := by
  cases negative <;> decide

theorem newline_notMem_pointed (places n : Nat) : '\n' ∉ pointed places n := by
  rw [pointed, paddedDigits, List.mem_append, List.mem_cons, List.mem_append]
  rintro (hwhole | hpoint | hzeros | hfraction)
  · exact newline_notMem_toDigits _ hwhole
  · cases hpoint
  · cases List.eq_of_mem_replicate hzeros
  · exact newline_notMem_toDigits _ hfraction

theorem newlines_fixed (places : Nat) (number : Binary64) : newlines (number.fixed places) = 0 := by
  rw [newlines_eq_zero]
  cases number with
  | nan => simp [fixed]
  | infinity negative => cases negative <;> simp [fixed, signMark]
  | finite negative units =>
      rw [fixed, String.toList_ofList, List.mem_append]
      rintro (hsign | hdigits)
      · exact newline_notMem_signMark negative hsign
      · exact newline_notMem_pointed _ _ hdigits

end Binary64

/-! ## The summary -/

namespace Watchdog

theorem newlines_seconds (duration : Binary64) : newlines (seconds duration) = 0 := by
  rw [seconds, newlines_append, Binary64.newlines_fixed]
  rfl

theorem newlines_nodeLine (name : String) (statistics : Statistics) :
    newlines (nodeLine name statistics) = newlines name := by
  simp only [nodeLine, newlines_append, newlines_natToString, newlines_seconds]
  rfl

theorem newlines_totalLine (watchdog : Watchdog) : newlines watchdog.totalLine = 0 := by
  simp only [totalLine, newlines_append, newlines_natToString]
  rfl

theorem newlines_summaryLine {watchdog : Watchdog}
    (hnames : ∀ entry ∈ watchdog.nodes, newlines entry.1 = 0) {line : String}
    (hline : line ∈ watchdog.summaryLines) : newlines line = 0 := by
  rcases List.mem_append.mp hline with hnode | htotal
  · obtain ⟨⟨name, node⟩, hentry, rfl⟩ := List.mem_map.mp hnode
    rw [newlines_nodeLine]
    exact hnames _ hentry
  · rw [List.mem_singleton.mp htotal]
    exact newlines_totalLine watchdog

theorem length_summaryLines (watchdog : Watchdog) :
    watchdog.summaryLines.length = watchdog.nodes.length + 1 := by
  rw [summaryLines, List.length_append, List.length_map, List.length_singleton]

end Watchdog

namespace Watch

open Watchdog

/-! ## Payloads -/

/-- Is this the byte of one of the two characters that end a line? -/
def isEndByte (byte : UInt8) : Bool := byte = 13 || byte = 10

theorem shownByte_ofFin (byte : Fin 256) :
    isLineEnd (shownByte (.ofFin byte)) = isEndByte (.ofFin byte) ∧
      (shownByte (.ofFin byte) == '\n') = (UInt8.ofFin byte == 10) := by
  revert byte
  decide +kernel

/-- The newlines of a payload as it is shown are those before the line ends at its end. -/
theorem newlines_shownPayload (payload : Payload) :
    newlines (shownPayload payload) = (payload.rdropWhile isEndByte).count 10 := by
  have hend : isLineEnd ∘ shownByte = isEndByte := funext fun byte => (shownByte_ofFin byte.toFin).1
  have hnewline : (· == '\n') ∘ shownByte = (· == 10) :=
    funext fun byte => (shownByte_ofFin byte.toFin).2
  rw [shownPayload, newlines, String.toList_ofList, ← List.map_reverse, List.dropWhile_map,
    ← List.map_reverse, hend]
  rw [List.count, List.countP_map, hnewline]
  rfl

/-- The newlines inside a report. -/
def Notice.newlinesInside (verbose : Bool) : Notice → Nat
  | heard _ payload => if verbose then (payload.rdropWhile isEndByte).count 10 else 0
  | expired _ => 0

theorem newlines_line {report : Notice} (hname : newlines report.node = 0) (verbose : Bool) :
    newlines (report.line verbose) = report.newlinesInside verbose := by
  cases report with
  | heard name payload =>
      rw [Notice.line, Notice.newlinesInside]
      split
      · simp only [newlines_append, newlines_shownPayload, show newlines name = 0 from hname]
        exact Nat.zero_add _
      · simp only [newlines_append, show newlines name = 0 from hname]
        rfl
  | expired name =>
      rw [Notice.line]
      simp only [newlines_append, show newlines name = 0 from hname]
      rfl

/-! ## The whole output -/

theorem newlines_written (lines : List String) :
    newlines (written lines) = lines.length + (lines.map newlines).sum := by
  induction lines with
  | nil => rfl
  | cons line rest ih =>
      have hcons : written (line :: rest) = line ++ "\n" ++ written rest := String.join_cons
      have hend : newlines "\n" = 1 := by decide
      rw [hcons, newlines_append, newlines_append, ih, hend, List.length_cons, List.map_cons,
        List.sum_cons]
      omega

theorem newlines_greeting {options : Options}
    (hhost : ∀ host, options.host = some host → '\n' ∉ host.toList) (port : Int) :
    newlines (options.greeting port) = 0 := by
  have htext : newlines options.hostText = 0 := by
    rw [Options.hostText]
    cases hgiven : options.host with
    | none => rfl
    | some host => exact newlines_eq_zero.mpr (hhost host hgiven)
  simp only [Options.greeting, newlines_append, newlines_intToString, htext]
  rfl

/-- The lines of a watch that has come to its end. -/
structure Lines (options : Options) (traffic : Traffic) (port : Int) (rounds : List (List Notice))
    (final : Watchdog) (output : String) : Prop where
  greeting : newlines (options.greeting port) = 0
  reports : ∀ report ∈ rounds.flatten,
    newlines (report.line options.verbose) = report.newlinesInside options.verbose
  summary : ∀ line ∈ final.summaryLines, newlines line = 0
  arrived : ∀ name payload, .heard name payload ∈ rounds.flatten →
    ∃ reception ∈ traffic.receptions, ∃ whole,
      reception.arrival = .datagram name whole ∧ payload = whole.take bufferLength
  datagrams : final.datagrams = heardCount rounds.flatten
  expired : final.expired = expiredCount rounds.flatten
  newlines_eq : newlines output =
    2 + final.datagrams + final.expired + final.nodes.length +
      (rounds.flatten.map (Notice.newlinesInside options.verbose)).sum
  exact_iff :
    newlines output = 2 + final.datagrams + final.expired + final.nodes.length ↔
      options.verbose = false ∨ ∀ name payload, .heard name payload ∈ rounds.flatten →
        10 ∉ payload.rdropWhile isEndByte

theorem sum_newlinesInside_eq_zero {verbose : Bool} {reports : List Notice} :
    (reports.map (Notice.newlinesInside verbose)).sum = 0 ↔
      verbose = false ∨ ∀ name payload, .heard name payload ∈ reports →
        10 ∉ payload.rdropWhile isEndByte := by
  rw [List.sum_eq_zero_iff_forall_eq_nat, List.forall_mem_map]
  cases verbose with
  | false =>
      refine iff_of_true ?_ (.inl rfl)
      rintro (_ | _) - <;> rfl
  | true =>
      constructor
      · intro hzero
        refine .inr fun name payload hheard => ?_
        exact List.count_eq_zero.mp (hzero _ hheard)
      · rintro (hfalse | hpayloads) (⟨name, payload⟩ | _) hreport
        · cases hfalse
        · rfl
        · exact List.count_eq_zero.mpr (hpayloads name payload hreport)
        · rfl

theorem sum_newlines_eq_zero {lines : List String} (h : ∀ line ∈ lines, newlines line = 0) :
    (lines.map newlines).sum = 0 := by
  rw [List.sum_eq_zero_iff_forall_eq_nat, List.forall_mem_map]
  exact h

/-- The newlines in the output of a watch. Nothing that is written has a newline inside but the
payloads that are shown, so that the output has one for the greeting, for each report, for each node
that is listed and for the total, and besides these the newlines inside of payloads. -/
theorem newlines_of_output {arguments : List String} {options : Options} {traffic : Traffic}
    (hparse : Options.parse arguments = .ok options)
    (hexit : (rehearse arguments traffic).ending = .exit 0)
    (hhost : ∀ host, options.host = some host → '\n' ∉ host.toList)
    (hnames : ∀ reception ∈ traffic.receptions, ∀ name payload,
      reception.arrival = .datagram name payload → '\n' ∉ name.toList) :
    ∃ port rounds final,
      Concludes options traffic port rounds final (rehearse arguments traffic).output ∧
      Lines options traffic port rounds final (rehearse arguments traffic).output := by
  obtain ⟨port, rounds, final, hconcludes⟩ := exists_concludes hparse hexit
  obtain ⟨deadline, halt, -, hhalt, hwatches⟩ := hconcludes.watches
  have hreported : Reported final rounds.flatten := reported_new.watches hwatches hhalt
  have hgreeting := newlines_greeting hhost port
  -- a name is never made up: whatever is said about a node follows a heartbeat that has arrived
  have hsender : ∀ name payload, .heard name payload ∈ rounds.flatten → newlines name = 0 := by
    intro name payload hheard
    obtain ⟨reception, hmem, whole, harrival, -⟩ := hwatches.arrived hheard
    exact newlines_eq_zero.mpr (hnames reception hmem _ _ harrival)
  have hreports : ∀ report ∈ rounds.flatten,
      newlines (report.line options.verbose) = report.newlinesInside options.verbose := by
    intro report hreport
    obtain ⟨payload, hheard⟩ := (hreported.inOrder report.node).exists_heard hreport
    exact newlines_line (hsender _ _ hheard) options.verbose
  have hsummary : ∀ line ∈ final.summaryLines, newlines line = 0 := by
    intro line hline
    refine newlines_summaryLine ?_ hline
    rintro ⟨name, node⟩ hentry
    obtain ⟨payload, hheard⟩ := hreported.exists_heard hentry
    exact hsender _ _ hheard
  have hdatagrams : final.datagrams = heardCount rounds.flatten := by
    rw [hreported.consistent.datagrams_eq, length_recordsOf]
  have hnewlines : newlines (rehearse arguments traffic).output =
      2 + final.datagrams + final.expired + final.nodes.length +
        (rounds.flatten.map (Notice.newlinesInside options.verbose)).sum := by
    have hlines : (rounds.flatten.map (Notice.line options.verbose)).map newlines =
        rounds.flatten.map (Notice.newlinesInside options.verbose) := by
      rw [List.map_map]
      exact List.map_congr_left hreports
    have hlength := length_eq_counts rounds.flatten
    rw [hconcludes.output_eq, newlines_written, List.cons_append, List.map_cons, List.map_append,
      hlines, List.sum_cons, List.sum_append, sum_newlines_eq_zero hsummary, hgreeting,
      List.length_cons, List.length_append, List.length_map, length_summaryLines, hdatagrams,
      hreported.expired_eq]
    omega
  refine ⟨port, rounds, final, hconcludes, hgreeting, hreports, hsummary,
    fun _ _ hheard => hwatches.arrived hheard, hdatagrams, hreported.expired_eq, hnewlines, ?_⟩
  rw [hnewlines, ← sum_newlinesInside_eq_zero]
  omega

/-- The payload that a verbose watch shows has a newline inside and another one at its end. -/
theorem newlines_of_output_of_verbose :
    Options.parse ["-v"] = .ok { verbose := true } ∧
      (rehearse ["-v"] { receptions := [
        ⟨0, .datagram "10.0.0.1" [97, 10, 98, 10]⟩] }).ending = .exit 0 ∧
      (∀ host, Options.host { verbose := true } = some host → '\n' ∉ host.toList) ∧
      (∀ reception ∈ [Reception.mk 0 (.datagram "10.0.0.1" [97, 10, 98, 10])],
        ∀ name payload, reception.arrival = .datagram name payload → '\n' ∉ name.toList) ∧
      ∃ port rounds final,
        Concludes { verbose := true }
          { receptions := [⟨0, .datagram "10.0.0.1" [97, 10, 98, 10]⟩] } port rounds final
          (rehearse ["-v"] { receptions := [
            ⟨0, .datagram "10.0.0.1" [97, 10, 98, 10]⟩] }).output ∧
        Lines { verbose := true }
          { receptions := [⟨0, .datagram "10.0.0.1" [97, 10, 98, 10]⟩] } port rounds final
          (rehearse ["-v"] { receptions := [
            ⟨0, .datagram "10.0.0.1" [97, 10, 98, 10]⟩] }).output := by
  have hparse : Options.parse ["-v"] = .ok { verbose := true } := by decide +kernel
  have hexit : (rehearse ["-v"] { receptions := [
      ⟨0, .datagram "10.0.0.1" [97, 10, 98, 10]⟩] }).ending = .exit 0 := by decide +kernel
  have hhost : ∀ host, Options.host { verbose := true } = some host → '\n' ∉ host.toList := by
    rintro host ⟨⟩
    decide
  have hnames : ∀ reception ∈ [Reception.mk 0 (.datagram "10.0.0.1" [97, 10, 98, 10])],
      ∀ name payload, reception.arrival = .datagram name payload → '\n' ∉ name.toList := by
    intro reception hreception name payload harrival
    obtain rfl := List.mem_singleton.mp hreception
    cases harrival
    decide
  exact ⟨hparse, hexit, hhost, hnames, newlines_of_output hparse hexit hhost hnames⟩

/-- One heartbeat is shown on two lines. -/
theorem heartbeat_on_two_lines :
    (rehearse ["-v"] { receptions := [⟨0, .datagram "10.0.0.1" [97, 10, 98]⟩] }).ending = .exit 0 ∧
      (rehearse ["-v"] { receptions := [⟨0, .datagram "10.0.0.1" [97, 10, 98]⟩] }).output =
        "Watching 0.0.0.0:5556\nNode 10.0.0.1 sent: a\nb\n" ++
          "10.0.0.1: 1 datagrams, gap mean 0.000s std 0.000s max 0.000s\n" ++
          "datagrams=1 nodes=1 expired=0\n" ∧
      newlines (rehearse ["-v"] { receptions := [
        ⟨0, .datagram "10.0.0.1" [97, 10, 98]⟩] }).output ≠ 2 + 1 + 0 + 1 := by
  decide +kernel

end Watch

end Heartbeat
