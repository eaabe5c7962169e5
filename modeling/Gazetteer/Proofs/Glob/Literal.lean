import Gazetteer.Glob.Depth
import Gazetteer.Proofs.Text.Cutting
import Mathlib.Data.List.Infix

/-!
# Patterns of a single text

Escaping every character of a text makes a pattern of literals. It can be read, it is not too deep,
and it matches the paths that have the bytes of the text, up to the case of letters where that does
not count (`accepts_literals`).
-/

namespace Gazetteer.Glob

/-- The pattern that stands for a text: every character is escaped. -/
def escaped (cs : List Char) : List Char := cs.flatMap fun c => ['\\', c]

/-! ## Reading -/

theorem readFrom_escaped (brackets : Brackets) (tokens : List Token) (previous : Option Char)
    (cs : List Char) : readFrom brackets ⟨tokens, []⟩ previous (escaped cs) =
      .ok (tokens.reverse ++ cs.map .literal) := by
  induction cs generalizing tokens previous with
  | nil =>
    rw [escaped, List.flatMap_nil, readFrom, List.map_nil, List.append_nil]
    rfl
  | cons c cs ih =>
    have hescaped : escaped (c :: cs) = '\\' :: c :: escaped cs := rfl
    rw [hescaped, readFrom, Reading.push, ih]
    simp

theorem tokensOf_escaped (brackets : Brackets) (cs : List Char) :
    tokensOf brackets (escaped cs) = .ok (cs.map .literal) :=
  readFrom_escaped brackets [] none cs

/-- Literals are no levels. -/
theorem depth_literals (rules : Rules) (cs : List Char) :
    (tokensShape rules (cs.map .literal)).depth = 0 := by
  induction cs with
  | nil => rfl
  | cons c cs ih =>
    rw [List.map_cons, tokensShape, tokenShape, Shape.append, ih]
    rfl

/-- White space at the end of a pattern would be taken off. -/
theorem trim_escaped {cs : List Char}
    (hlast : ∀ c, cs.getLast? = some c → Text.isBlank c = false) :
    Text.trim (escaped cs) = escaped cs := by
  refine Text.trim_of_ends (fun c hc => ?_) (fun c hc => ?_)
  · cases cs with
    | nil => cases hc
    | cons first cs =>
      obtain rfl := Option.some.inj hc
      decide
  · rcases List.eq_nil_or_concat cs with rfl | ⟨front, last, rfl⟩
    · cases hc
    · refine hlast c ?_
      rw [List.concat_eq_append, escaped, List.flatMap_append] at hc
      simpa using hc

/-! ## Matching -/

/-- Whether two texts have the same bytes, up to case where it does not count. -/
def sameBytes (rules : Rules) : List UInt8 → List UInt8 → Bool
  | [], [] => true
  | a :: as, b :: bs => sameByte rules a b && sameBytes rules as bs
  | _, _ => false

theorem sameBytes_self (rules : Rules) (bs : List UInt8) : sameBytes rules bs bs = true := by
  induction bs with
  | nil => rfl
  | cons b bs ih =>
    rw [sameBytes, ih, Bool.and_true, sameByte]
    split <;> exact decide_eq_true rfl

theorem length_eq_of_sameBytes {rules : Rules} {as bs : List UInt8}
    (h : sameBytes rules as bs = true) : as.length = bs.length := by
  fun_induction sameBytes rules as bs with
  | case1 => rfl
  | case2 a as b bs ih =>
    rw [List.length_cons, List.length_cons, ih (Bool.and_eq_true_iff.1 h).2]
  | case3 => cases h

/-- The row of a test of suffixes. -/
def rowOf (p : List UInt8 → Bool) (text : List UInt8) : Row := text.tails.map p

theorem headD_rowOf (p : List UInt8 → Bool) (text : List UInt8) :
    (rowOf p text).headD false = p text := by
  cases text <;> rfl

theorem endRow_eq_rowOf (rules : Rules) (text : List UInt8) :
    endRow text = rowOf (sameBytes rules []) text := by
  induction text with
  | nil => rfl
  | cons b text ih =>
    have hcons : endRow (b :: text) = false :: endRow text := rfl
    rw [hcons, ih]
    rfl

theorem byteRow_rowOf (rules : Rules) (b : UInt8) (bs text : List UInt8) :
    byteRow (sameByte rules b) text (rowOf (sameBytes rules bs) text) =
      rowOf (sameBytes rules (b :: bs)) text := by
  induction text with
  | nil => rfl
  | cons c text ih =>
    have hcons : ∀ p, rowOf p (c :: text) = p (c :: text) :: rowOf p text := fun p => rfl
    rw [hcons, hcons, byteRow, headD_rowOf, ih, sameBytes]

theorem tokensRow_literals (rules : Rules) (text : List UInt8) (cs : List Char) :
    tokensRow rules text (endRow text) (cs.map .literal) =
      rowOf (sameBytes rules (cs.flatMap String.utf8EncodeChar)) text := by
  have hbytes : ∀ bs others : List UInt8,
      bs.foldr (fun b row => byteRow (sameByte rules b) text row)
        (rowOf (sameBytes rules others) text) = rowOf (sameBytes rules (bs ++ others)) text := by
    intro bs others
    induction bs with
    | nil => rfl
    | cons b bs ih => rw [List.foldr_cons, ih, byteRow_rowOf, List.cons_append]
  induction cs with
  | nil => exact endRow_eq_rowOf rules text
  | cons c cs ih =>
    rw [List.map_cons, tokensRow, ih, tokenRow, hbytes, List.flatMap_cons]

/-- A pattern of literals matches the paths with its bytes. -/
theorem accepts_literals (rules : Rules) (cs : List Char) (path : String) :
    accepts rules ⟨cs.map .literal⟩ path =
      sameBytes rules (cs.flatMap String.utf8EncodeChar) (bytes path) := by
  unfold accepts
  split
  next hleading =>
    cases cs with
    | nil => cases hleading
    | cons c cs => cases hleading
  next =>
    show (tokensRow rules (bytes path) (endRow (bytes path)) (cs.map .literal)).headD false = _
    rw [tokensRow_literals, headD_rowOf]

end Gazetteer.Glob
