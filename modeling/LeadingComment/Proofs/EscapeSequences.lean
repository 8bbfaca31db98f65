import LeadingComment.Console
import Mathlib.Data.List.Basic

/-! Bytes with escape sequences in them, as a terminal reads them: what is shown, and the codes that the
sequences set. Reading composes over texts that leave no sequence open (`Reads.append`), so that what a
writer puts together of whole sequences and text without any can be told part by part. -/
namespace LeadingComment
namespace Ansi

def mark : UInt8 := 27
def bracket : UInt8 := 91
def final : UInt8 := 109

def isDigit (byte : UInt8) : Bool := 48 ≤ byte && byte ≤ 57

/-- A whole sequence, told by its digits, or a byte that belongs to none. -/
inductive Token where
  | code (digits : Bytes)
  | shown (byte : UInt8)

namespace Token

def code? : Token → Option Bytes
  | code digits => some digits
  | shown _ => none

def shown? : Token → Option UInt8
  | code _ => none
  | shown byte => some byte

end Token

/-- The digits of the sequence that the bytes begin with: mark, bracket, digits, and the final byte. -/
def front? : Bytes → Option Bytes
  | first :: second :: rest =>
    let digits := rest.takeWhile isDigit
    if first = mark ∧ second = bracket ∧ digits ≠ [] ∧ (rest.dropWhile isDigit).head? = some final
    then some digits else none
  | _ => none

/-- The first `left` bytes belong to a sequence that has been read already. -/
def tokensFrom : Nat → Bytes → List Token
  | _, [] => []
  | left + 1, _ :: bytes => tokensFrom left bytes
  | 0, byte :: bytes =>
    match front? (byte :: bytes) with
    | some digits => .code digits :: tokensFrom (digits.length + 2) bytes
    | none => .shown byte :: tokensFrom 0 bytes

def tokens (bytes : Bytes) : List Token := tokensFrom 0 bytes

def erase (bytes : Bytes) : Bytes := (tokens bytes).filterMap Token.shown?

def codes (bytes : Bytes) : List Bytes := (tokens bytes).filterMap Token.code?

/-- No color is set behind the bytes: their last sequence is the reset, or there is none. -/
def IsReset (bytes : Bytes) : Prop := ∀ code, (codes bytes).getLast? = some code → code = utf8 "0"

theorem tokensFrom_skip (front rest : Bytes) : tokensFrom front.length (front ++ rest) = tokens rest := by
  induction front with
  | nil => rfl
  | cons byte front hyp => exact hyp

theorem tokens_clear {front : Bytes} (clear : mark ∉ front) (rest : Bytes) :
    tokens (front ++ rest) = front.map Token.shown ++ tokens rest := by
  induction front with
  | nil => rfl
  | cons byte front hyp =>
    simp only [List.mem_cons, not_or] at clear
    obtain ⟨other, later⟩ := clear
    have none_here : front? (byte :: (front ++ rest)) = none := by
      cases front ++ rest with
      | nil => rfl
      | cons next bytes => simp [front?, Ne.symm other]
    rw [List.cons_append, tokens, tokensFrom, none_here]
    exact congrArg (Token.shown byte :: ·) (hyp later)

theorem tokens_sequence {digits : Bytes} (begun : digits ≠ []) (decimal : ∀ digit ∈ digits, isDigit digit = true)
    (rest : Bytes) :
    tokens (mark :: bracket :: digits ++ final :: rest) = .code digits :: tokens rest := by
  have taken : (digits ++ final :: rest).takeWhile isDigit = digits := by
    rw [List.takeWhile_append_of_pos decimal]
    simp [isDigit, final]
  have left : (digits ++ final :: rest).dropWhile isDigit = final :: rest := by
    rw [List.dropWhile_append_of_pos decimal]
    simp [isDigit, final]
  have here : front? (mark :: bracket :: (digits ++ final :: rest)) = some digits := by
    simp [front?, taken, left, begun]
  have skipped := tokensFrom_skip (bracket :: digits ++ [final]) rest
  have length : (bracket :: digits ++ [final]).length = digits.length + 2 := by simp
  rw [length] at skipped
  rw [List.cons_append, List.cons_append, tokens, tokensFrom, here]
  simp only [← skipped]
  simp

/-- How a text is read, whatever follows it: what is shown of it, and the codes that it sets. -/
def Reads (bytes shown : Bytes) (set : List Bytes) : Prop :=
  ∃ read : List Token, (∀ rest, tokens (bytes ++ rest) = read ++ tokens rest) ∧
    read.filterMap Token.shown? = shown ∧ read.filterMap Token.code? = set

namespace Reads

variable {bytes shown later more : Bytes} {set next : List Bytes}

theorem nothing : Reads [] [] [] := ⟨[], fun _ => rfl, rfl, rfl⟩

theorem append (reads : Reads bytes shown set) (then_reads : Reads later more next) :
    Reads (bytes ++ later) (shown ++ more) (set ++ next) := by
  obtain ⟨read, front, rfl, rfl⟩ := reads
  obtain ⟨others, back, rfl, rfl⟩ := then_reads
  refine ⟨read ++ others, ?_, List.filterMap_append, List.filterMap_append⟩
  intro rest
  rw [List.append_assoc, front, back, List.append_assoc]

theorem clear (unmarked : mark ∉ bytes) : Reads bytes bytes [] := by
  refine ⟨bytes.map Token.shown, tokens_clear unmarked, ?_, ?_⟩
  · rw [List.filterMap_map]
    exact List.filterMap_some
  · rw [List.filterMap_map]
    exact List.filterMap_eq_nil_iff.mpr fun _ _ => rfl

theorem sequence {code : String} (begun : utf8 code ≠ [])
    (decimal : ∀ digit ∈ utf8 code, isDigit digit = true) :
    Reads (utf8 (Ansi.sequence code)) [] [utf8 code] := by
  have written : utf8 (Ansi.sequence code) = mark :: bracket :: utf8 code ++ [final] := by
    have start : utf8 (String.singleton escape) = [mark] := by decide
    have second : utf8 "[" = [bracket] := by decide
    have last : utf8 "m" = [final] := by decide
    rw [Ansi.sequence, utf8_append, utf8_append, utf8_append, start, second, last]
    rfl
  refine ⟨[.code (utf8 code)], ?_, rfl, rfl⟩
  intro rest
  rw [written, List.append_assoc, List.singleton_append, tokens_sequence begun decimal]
  rfl

theorem erase_eq (reads : Reads bytes shown set) : erase bytes = shown := by
  obtain ⟨read, front, rfl, rfl⟩ := reads
  have whole := front []
  rw [List.append_nil] at whole
  rw [erase, whole, List.filterMap_append]
  exact List.append_nil _

theorem codes_eq (reads : Reads bytes shown set) : codes bytes = set := by
  obtain ⟨read, front, rfl, rfl⟩ := reads
  have whole := front []
  rw [List.append_nil] at whole
  rw [codes, whole, List.filterMap_append]
  exact List.append_nil _

end Reads

end Ansi
end LeadingComment
