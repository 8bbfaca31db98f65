import LeadingComment.Output
import LeadingComment.Text.Line

/-! Standard output. It passes a text on to its device when a line ends, and meets a device that is full no
sooner. -/
namespace LeadingComment

structure Stdout where
  device : Output := {}
  /-- Text that waits for the end of its line. -/
  waiting : Bytes := []
deriving DecidableEq, Repr

namespace Stdout

def full : Stdout := { device := .full }

def capacity : Nat := 1024

/-- Passes on what is due and keeps what is not, unless the device refuses. -/
def pass (stdout : Stdout) (due early : Bytes) : Option Fault × Stdout :=
  match stdout.device.write due with
  | (none, device) => (none, { device, waiting := early })
  | (some fault, device) => (some fault, { device })

/-- Takes a text in which no line ends. -/
def hold (stdout : Stdout) (text : Bytes) : Option Fault × Stdout :=
  if capacity ≤ text.length then stdout.pass (stdout.waiting ++ text) []
  else if capacity < stdout.waiting.length + text.length then stdout.pass stdout.waiting text
  else (none, { stdout with waiting := stdout.waiting ++ text })

/-- The lines that end within some bytes. -/
def linesOf (bytes : Bytes) : Bytes := (bytes.reverse.dropWhile (· != Line.newline)).reverse

/-- What stands behind the last line that ends. -/
def restOf (bytes : Bytes) : Bytes := (bytes.reverse.takeWhile (· != Line.newline)).reverse

def write (stdout : Stdout) (bytes : Bytes) : Option Fault × Stdout :=
  if linesOf bytes = [] then stdout.hold bytes
  else
    match stdout.pass (stdout.waiting ++ linesOf bytes) [] with
    | (none, stdout) => stdout.hold (restOf bytes)
    | refused => refused

def flush (stdout : Stdout) : Option Fault × Stdout :=
  match stdout.pass stdout.waiting [] with
  | (none, stdout) => (stdout.device.flushFault, stdout)
  | refused => refused

/-- What is left at the end is passed on, and nobody hears of it if the device refuses. -/
def close (stdout : Stdout) : Output := (stdout.device.write stdout.waiting).2

/-- All that has been taken, passed on or not. -/
def taken (stdout : Stdout) : Bytes := stdout.device.bytes ++ stdout.waiting

theorem pass_device (stdout : Stdout) (due early : Bytes) :
    ∃ stored, (stdout.pass due early).2.device = { stdout.device with stored } := by
  refine ⟨(stdout.device.write due).2.stored, ?_⟩
  rw [← Output.write_stored, pass]
  rcases stdout.device.write due with ⟨_ | fault, device⟩ <;> rfl

theorem hold_device (stdout : Stdout) (text : Bytes) :
    ∃ stored, (stdout.hold text).2.device = { stdout.device with stored } := by
  unfold hold
  split
  · exact stdout.pass_device _ _
  · split
    · exact stdout.pass_device _ _
    · exact ⟨_, rfl⟩

theorem write_device (stdout : Stdout) (bytes : Bytes) :
    ∃ stored, (stdout.write bytes).2.device = { stdout.device with stored } := by
  unfold write
  split
  · exact stdout.hold_device bytes
  · obtain ⟨stored, passed⟩ := stdout.pass_device (stdout.waiting ++ linesOf bytes) []
    rcases written : stdout.pass (stdout.waiting ++ linesOf bytes) [] with ⟨_ | fault, next⟩ <;>
      rw [written] at passed
    · obtain ⟨later, held⟩ := next.hold_device (restOf bytes)
      rw [passed] at held
      exact ⟨later, held⟩
    · exact ⟨stored, passed⟩

instance : Writer Stdout where
  write := write
  flush := flush
  colored stdout := stdout.device.colored
  colored_write stdout bytes := by
    obtain ⟨stored, written⟩ := stdout.write_device bytes
    rw [written]

theorem writePieces_device (stdout : Stdout) (pieces : List String) :
    ∃ stored, (Writer.writePieces stdout pieces).2.device = { stdout.device with stored } := by
  let Kept (next : Stdout) : Prop := ∃ stored, next.device = { stdout.device with stored }
  have step : ∀ next text, Kept next → Kept (Writer.writeText next text).2 := by
    rintro next text ⟨stored, kept⟩
    obtain ⟨later, device⟩ := next.write_device (utf8 text)
    rw [kept] at device
    exact ⟨later, device⟩
  exact Writer.writePieces_keeps Kept step pieces ⟨_, rfl⟩

theorem linesOf_append_restOf (bytes : Bytes) : linesOf bytes ++ restOf bytes = bytes := by
  rw [linesOf, restOf, ← List.reverse_append, List.takeWhile_append_dropWhile, List.reverse_reverse]

theorem linesOf_ne_nil {bytes : Bytes} (ended : Line.newline ∈ bytes) : linesOf bytes ≠ [] := by
  intro empty
  have rest : restOf bytes = bytes := by simpa [empty] using linesOf_append_restOf bytes
  have inside : Line.newline ∈ bytes.reverse.takeWhile (· != Line.newline) := by
    rw [← rest, restOf, List.mem_reverse] at ended
    exact ended
  exact absurd (List.all_eq_true.mp List.all_takeWhile _ inside) (by decide)

section

variable {stdout : Stdout} (unlimited : stdout.device.limit = none)

include unlimited

theorem pass_unlimited (due early : Bytes) :
    (stdout.pass due early).1 = none ∧ (stdout.pass due early).2.taken = stdout.device.bytes ++ due ++ early := by
  have bytes := stdout.device.bytes_write due
  have refused := mt (stdout.device.write_refused_iff due).mp (by simp [unlimited])
  rw [unlimited] at bytes
  rw [pass]
  rcases written : stdout.device.write due with ⟨_ | fault, device⟩ <;> rw [written] at bytes refused
  · exact ⟨rfl, congrArg (· ++ early) bytes⟩
  · exact absurd (by simp) refused

theorem hold_unlimited (text : Bytes) :
    (stdout.hold text).1 = none ∧ (stdout.hold text).2.taken = stdout.taken ++ text := by
  unfold hold
  split
  · simpa [taken] using pass_unlimited unlimited (stdout.waiting ++ text) []
  · split
    · exact pass_unlimited unlimited stdout.waiting text
    · exact ⟨rfl, by simp [taken]⟩

theorem write_unlimited (bytes : Bytes) :
    (stdout.write bytes).1 = none ∧ (stdout.write bytes).2.taken = stdout.taken ++ bytes := by
  unfold write
  split
  · exact hold_unlimited unlimited bytes
  · obtain ⟨accepted, passed⟩ := pass_unlimited unlimited (stdout.waiting ++ linesOf bytes) []
    obtain ⟨stored, device⟩ := stdout.pass_device (stdout.waiting ++ linesOf bytes) []
    rcases written : stdout.pass (stdout.waiting ++ linesOf bytes) [] with ⟨refusal, next⟩
    rw [written] at accepted passed device
    cases accepted
    obtain ⟨held, all⟩ := hold_unlimited (by rw [device]; exact unlimited) (restOf bytes)
    refine ⟨held, all.trans ?_⟩
    rw [passed, List.append_nil, taken, List.append_assoc, List.append_assoc, List.append_assoc,
      linesOf_append_restOf]

theorem writePieces_unlimited (pieces : List String) :
    (Writer.writePieces stdout pieces).1 = none ∧
      (Writer.writePieces stdout pieces).2.taken = stdout.taken ++ utf8 (String.join pieces) := by
  induction pieces generalizing stdout with
  | nil => exact ⟨rfl, (List.append_nil _).symm⟩
  | cons piece pieces hyp =>
    obtain ⟨accepted, first⟩ : (Writer.writeText stdout piece).1 = none ∧
        (Writer.writeText stdout piece).2.taken = _ := write_unlimited unlimited (utf8 piece)
    obtain ⟨stored, device⟩ : ∃ stored, (Writer.writeText stdout piece).2.device = _ :=
      stdout.write_device (utf8 piece)
    rw [Writer.writePieces]
    rcases written : Writer.writeText stdout piece with ⟨refusal, next⟩
    rw [written] at accepted first device
    cases accepted
    obtain ⟨granted, all⟩ := hyp (by rw [device]; exact unlimited)
    refine ⟨granted, all.trans ?_⟩
    rw [first, String.join_cons, utf8_append, List.append_assoc]

theorem bytes_close_unlimited : stdout.close.bytes = stdout.taken := by
  rw [close, Output.bytes_write, unlimited, taken]

theorem flush_unlimited :
    (Writer.flush stdout).1 = stdout.device.flushFault ∧
      (Writer.flush stdout).2.close.bytes = stdout.taken := by
  obtain ⟨accepted, passed⟩ := pass_unlimited unlimited stdout.waiting []
  obtain ⟨stored, device⟩ := stdout.pass_device stdout.waiting []
  change stdout.flush.1 = _ ∧ stdout.flush.2.close.bytes = _
  rw [flush]
  rcases written : stdout.pass stdout.waiting [] with ⟨refusal, next⟩
  rw [written] at accepted passed device
  cases accepted
  have still : next.device.limit = none := (congrArg Output.limit device).trans unlimited
  have kept := congrArg Output.flushFault device
  refine ⟨kept, ?_⟩
  exact (bytes_close_unlimited still).trans (passed.trans (List.append_nil _))

end

section

variable {stdout : Stdout} (full : stdout.device.limit = some 0)

include full

theorem pass_full (due early : Bytes) :
    stdout.pass due early =
      if due = [] then (none, { stdout with waiting := early })
      else (some stdout.device.overflow, { stdout with waiting := [] }) := by
  rw [pass, Output.write_full full]
  by_cases empty : due = []
  · simp only [if_pos empty]
  · simp only [if_neg empty]

theorem hold_full (text : Bytes) :
    (stdout.hold text).2.device = stdout.device ∧
      ((stdout.hold text).1 = none ∨ (stdout.hold text).1 = some stdout.device.overflow) := by
  have passed (due early : Bytes) : (stdout.pass due early).2.device = stdout.device ∧
      ((stdout.pass due early).1 = none ∨ (stdout.pass due early).1 = some stdout.device.overflow) := by
    rw [pass_full full]
    split
    · exact ⟨rfl, .inl rfl⟩
    · exact ⟨rfl, .inr rfl⟩
  unfold hold
  split
  · exact passed _ _
  · split
    · exact passed _ _
    · exact ⟨rfl, .inl rfl⟩

/-- A full device takes nothing, and the end of a line meets it. -/
theorem write_full (bytes : Bytes) :
    (stdout.write bytes).2.device = stdout.device ∧
      ((stdout.write bytes).1 = none ∧ Line.newline ∉ bytes ∨
        (stdout.write bytes).1 = some stdout.device.overflow) := by
  by_cases unended : linesOf bytes = []
  · rw [write, if_pos unended]
    obtain ⟨device, accepted | refused⟩ := hold_full full bytes
    · exact ⟨device, .inl ⟨accepted, fun ended => linesOf_ne_nil ended unended⟩⟩
    · exact ⟨device, .inr refused⟩
  · have due : stdout.waiting ++ linesOf bytes ≠ [] := List.append_ne_nil_of_right_ne_nil _ unended
    rw [write, if_neg unended, pass_full full, if_neg due]
    exact ⟨rfl, .inr rfl⟩

end

end Stdout
end LeadingComment
