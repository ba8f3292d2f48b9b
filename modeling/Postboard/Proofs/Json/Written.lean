import Postboard.Json.Reader
import Postboard.Json.Writer

/-! Values read back from the line of text they are written as: numbers digit for digit, objects member
for member. Text that is laid out in any other way is not covered, nor is text that nothing was written as. -/
namespace Postboard.Json
open Text

structure Digits (digits : List Char) : Prop where
  present : digits ≠ []
  each : ∀ c ∈ digits, isAsciiDigit c

structure Number.Formed (n : Number) : Prop where
  whole : n.whole = ['0'] ∨ (Digits n.whole ∧ n.whole.head? ≠ some '0')
  fraction : ∀ c ∈ n.fraction, isAsciiDigit c
  exponent : ∀ e ∈ n.exponent, Digits e.2

def Ends (kind : Char → Bool) (rest : List Char) : Prop := ∀ c ∈ rest.head?, kind c = false

def isFractionPart (c : Char) : Bool := isAsciiDigit c || c == '.'

def isNumberPart (c : Char) : Bool := isFractionPart c || c == 'e' || c == 'E'

theorem endsCons {kind : Char → Bool} {c : Char} (other : kind c = false) (rest : List Char) :
    Ends kind (c :: rest) := by
  intro d first
  rwa [← Option.some.inj first]

theorem Ends.mono {wide narrow : Char → Bool} {rest : List Char} (ends : Ends wide rest)
    (less : ∀ c, wide c = false → narrow c = false) : Ends narrow rest :=
  fun c first => less c (ends c first)

theorem digitIsNot {c : Char} (digit : isAsciiDigit c) {mark : Char} (other : isAsciiDigit mark = false) :
    c ≠ mark := by
  rintro rfl
  exact absurd digit (by simp [other])

theorem takeDigits {digits rest : List Char} (each : ∀ c ∈ digits, isAsciiDigit c) (ends : Ends isAsciiDigit rest) :
    (digits ++ rest).takeWhile isAsciiDigit = digits := by
  rw [List.takeWhile_append_of_pos each]
  cases rest with
  | nil => simp
  | cons c rest =>
    have stop : isAsciiDigit c = false := ends c rfl
    simp [stop]

theorem digitsReadBack {digits rest : List Char} (formed : Digits digits) (ends : Ends isAsciiDigit rest) :
    readDigits (digits ++ rest) = some (digits, rest) := by
  simp [readDigits, takeDigits formed.each ends, formed.present]

theorem wholeReadBack {n : Number} (formed : n.Formed) {rest : List Char} (ends : Ends isAsciiDigit rest) :
    readWhole (n.whole ++ rest) = some (n.whole, rest) := by
  rcases formed.whole with zero | ⟨digits, other⟩
  · rw [zero]
    rfl
  · have read := digitsReadBack digits ends
    unfold readWhole
    split
    · rename_i r same
      obtain ⟨c, cs, whole⟩ := List.exists_cons_of_ne_nil digits.present
      rw [whole] at same other
      exact absurd (congrArg some (List.cons.inj same).1) other
    · exact read

def fractionText (fraction : List Char) : List Char := if fraction.isEmpty then [] else '.' :: fraction

def exponentText (exponent : Option (Bool × List Char)) : List Char :=
  match exponent with
  | some (negative, digits) => 'e' :: (if negative then '-' :: digits else digits)
  | none => []

theorem fractionReadBack {fraction rest : List Char} (each : ∀ c ∈ fraction, isAsciiDigit c)
    (ends : Ends isFractionPart rest) : readFractionDigits (fractionText fraction ++ rest) = some (fraction, rest) := by
  cases fraction with
  | nil =>
    rw [fractionText, List.isEmpty_nil, if_pos rfl, List.nil_append]
    unfold readFractionDigits
    split
    · exact absurd (ends '.' rfl) (by decide)
    · rfl
  | cons c fraction =>
    have digits : Digits (c :: fraction) := ⟨List.cons_ne_nil c fraction, each⟩
    have narrow := ends.mono fun c other => (Bool.or_eq_false_iff.1 other).1
    exact digitsReadBack digits narrow

theorem signedReadBack {digits rest : List Char} (formed : Digits digits) (ends : Ends isAsciiDigit rest)
    (negative : Bool) :
    readExponent ('e' :: ((if negative then '-' :: digits else digits) ++ rest)) =
      some (some (negative, digits), rest) := by
  have read := digitsReadBack formed ends
  cases negative with
  | true => simp [readExponent, read]
  | false =>
    obtain ⟨c, cs, rfl⟩ := List.exists_cons_of_ne_nil formed.present
    have digit : isAsciiDigit c := formed.each c List.mem_cons_self
    unfold readExponent
    simp only [true_or, if_true, Bool.false_eq_true, if_false]
    split
    · rename_i same
      exact absurd (List.cons.inj same).1 (digitIsNot digit rfl)
    · rename_i same
      exact absurd (List.cons.inj same).1 (digitIsNot digit rfl)
    · rw [read, Option.map_some]

theorem exponentReadBack {exponent : Option (Bool × List Char)} (digits : ∀ e ∈ exponent, Digits e.2) {rest : List Char}
    (ends : Ends isNumberPart rest) : readExponent (exponentText exponent ++ rest) = some (exponent, rest) := by
  cases exponent with
  | none =>
    unfold readExponent exponentText
    rw [List.nil_append]
    split
    · rename_i c r
      have other := ends c rfl
      simp only [isNumberPart, Bool.or_eq_false_iff, beq_eq_false_iff_ne] at other
      rw [if_neg (not_or.2 ⟨other.1.2, other.2⟩)]
    · rfl
  | some e =>
    have narrow : Ends isAsciiDigit rest := by
      refine ends.mono fun c other => ?_
      simp only [isNumberPart, isFractionPart, Bool.or_eq_false_iff] at other
      exact other.1.1.1
    exact signedReadBack (digits e rfl) narrow e.1

theorem exponentEnds (exponent : Option (Bool × List Char)) {rest : List Char} (ends : Ends isNumberPart rest) :
    Ends isFractionPart (exponentText exponent ++ rest) := by
  cases exponent with
  | none => exact ends.mono fun c other => (Bool.or_eq_false_iff.1 (Bool.or_eq_false_iff.1 other).1).1
  | some e => exact endsCons rfl _

theorem fractionEnds (fraction : List Char) {rest : List Char} (ends : Ends isFractionPart rest) :
    Ends isAsciiDigit (fractionText fraction ++ rest) := by
  cases fraction with
  | nil => exact ends.mono fun c other => (Bool.or_eq_false_iff.1 other).1
  | cons c fraction => exact endsCons rfl _

theorem Number.Formed.start {n : Number} (formed : n.Formed) : ∃ c r, n.whole = c :: r ∧ isAsciiDigit c := by
  rcases formed.whole with zero | ⟨digits, -⟩
  · exact ⟨'0', [], zero, by decide⟩
  · obtain ⟨c, r, same⟩ := List.exists_cons_of_ne_nil digits.present
    exact ⟨c, r, same, digits.each c (same ▸ List.mem_cons_self)⟩

def unsignedText (n : Number) : List Char := n.whole ++ (fractionText n.fraction ++ exponentText n.exponent)

theorem numberText (n : Number) : n.write = (if n.negative then ['-'] else []) ++ unsignedText n := by
  obtain ⟨_, _, _, exponent⟩ := n
  cases exponent <;> simp [Number.write, unsignedText, fractionText, exponentText]

theorem numberReadBack {n : Number} (formed : n.Formed) {rest : List Char} (ends : Ends isNumberPart rest) :
    readNumber (n.write ++ rest) = some (n, rest) := by
  have follows := exponentEnds n.exponent ends
  have exponent := exponentReadBack formed.exponent ends
  have fraction := fractionReadBack formed.fraction follows
  have whole := wholeReadBack formed (fractionEnds n.fraction follows)
  obtain ⟨c, r, start, digit⟩ := formed.start
  have unsigned : c ≠ '-' := digitIsNot digit rfl
  obtain ⟨negative, digits, _, _⟩ := n
  obtain rfl : digits = c :: r := start
  rw [numberText, unsignedText]
  simp only [List.append_assoc, List.cons_append] at whole ⊢
  cases negative with
  | true => simp [readNumber, whole, fraction, exponent]
  | false => simp [readNumber, unsigned, whole, fraction, exponent]

def shortEscapes : List Char := ['"', '\\', '\x08', '\x0c', '\n', '\r', '\t']

def pieceOf (c : Char) : Piece :=
  if c ∈ shortEscapes then .char c
  else if c.toNat < 0x20 then .unit c.toNat
  else .char c

theorem shortReadBack {c : Char} (short : c ∈ shortEscapes) (rest : List Char) :
    readPieces (writeChar c ++ rest) = (readPieces rest).map fun (pieces, rest) => (.char c :: pieces, rest) := by
  simp only [shortEscapes, List.mem_cons, List.not_mem_nil, or_false] at short
  obtain rfl | rfl | rfl | rfl | rfl | rfl | rfl := short <;> rfl

theorem hexOfDigit : ∀ n < 16, hexValue? (Nat.digitChar n) = some n := by decide

theorem controlUnit {c : Char} (control : c.toNat < 0x20) :
    codeUnit? '0' '0' (Nat.digitChar (c.toNat / 16)) (Nat.digitChar (c.toNat % 16)) = some c.toNat := by
  have zero : hexValue? '0' = some 0 := by decide
  have high := hexOfDigit (c.toNat / 16) (by omega)
  have low := hexOfDigit (c.toNat % 16) (by omega)
  simp only [codeUnit?, zero, high, low, bind, Option.bind, pure, Option.some.injEq]
  omega

theorem controlReadBack {c : Char} (control : c.toNat < 0x20) (rest : List Char) :
    readPieces (['\\', 'u', '0', '0'] ++ controlDigits c ++ rest) =
      (readPieces rest).map fun (pieces, rest) => (.unit c.toNat :: pieces, rest) := by
  have unit := controlUnit control
  simp only [controlDigits, List.cons_append, List.nil_append, readPieces, unit]

theorem plainReadBack {c : Char} (long : c ∉ shortEscapes) (printed : ¬ c.toNat < 0x20) (rest : List Char) :
    readPieces (c :: rest) = (readPieces rest).map fun (pieces, rest) => (.char c :: pieces, rest) := by
  have quote : c ≠ '"' := fun same => long (by simp [same, shortEscapes])
  have backslash : c ≠ '\\' := fun same => long (by simp [same, shortEscapes])
  rw [readPieces.eq_def]
  split
  · contradiction
  · rename_i same
    exact absurd (List.cons.inj same).1 quote
  · rename_i same
    exact absurd (List.cons.inj same).1 backslash
  · rename_i same
    exact absurd (List.cons.inj same).1 backslash
  · rename_i same
    obtain ⟨rfl, rfl⟩ := List.cons.inj same
    rw [if_neg printed]

theorem charReadBack (c : Char) (rest : List Char) :
    readPieces (writeChar c ++ rest) = (readPieces rest).map fun (pieces, rest) => (pieceOf c :: pieces, rest) := by
  by_cases short : c ∈ shortEscapes
  · rw [pieceOf, if_pos short, shortReadBack short]
  · have escaped : writeChar c = if c.toNat < 0x20 then ['\\', 'u', '0', '0'] ++ controlDigits c else [c] := by
      simp only [shortEscapes, List.mem_cons, List.not_mem_nil, or_false, not_or] at short
      simp [writeChar, short]
    rw [escaped, pieceOf, if_neg short]
    split
    · rename_i control
      exact controlReadBack control rest
    · rename_i printed
      exact plainReadBack short printed rest

theorem unitCharacters {n : Nat} (control : n < 0x20) (pieces : List Piece) :
    characters? (.unit n :: pieces) = (characters? pieces).map (Char.ofNat n :: ·) := by
  have high : isHighSurrogate n = false := by
    simp only [isHighSurrogate, Bool.and_eq_false_iff, decide_eq_false_iff_not]
    omega
  have low : isLowSurrogate n = false := by
    simp only [isLowSurrogate, Bool.and_eq_false_iff, decide_eq_false_iff_not]
    omega
  rw [characters?.eq_def]
  split
  · contradiction
  · rename_i same
    cases same
  · rename_i same
    obtain ⟨unit, rfl⟩ := List.cons.inj same
    cases unit
    simp only [high, low, Bool.false_eq_true, if_false]
  · rename_i same
    obtain ⟨unit, rfl⟩ := List.cons.inj same
    cases unit
    simp only [high, low, Bool.or_self, Bool.false_eq_true, if_false]

theorem pieceCharacters (c : Char) (pieces : List Piece) :
    characters? (pieceOf c :: pieces) = (characters? pieces).map (c :: ·) := by
  unfold pieceOf
  split
  · rfl
  · split
    · rename_i control
      rw [unitCharacters control, Char.ofNat_toNat]
    · rfl

theorem piecesReadBack (text rest : List Char) :
    readPieces (text.flatMap writeChar ++ '"' :: rest) = some (text.map pieceOf, rest) := by
  induction text with
  | nil => rfl
  | cons c text ih => rw [List.flatMap_cons, List.append_assoc, charReadBack, ih, Option.map_some, List.map_cons]

theorem charactersOfPieces (text : List Char) : characters? (text.map pieceOf) = some text := by
  induction text with
  | nil => rfl
  | cons c text ih => rw [List.map_cons, pieceCharacters, ih, Option.map_some]

theorem stringReadBack (text : Option String) :
    ∃ body, writeString text = '"' :: body ∧ ∀ rest, readString (body ++ rest) = some (text, rest) := by
  cases text with
  | none => exact ⟨_, rfl, fun _ => rfl⟩
  | some text =>
    refine ⟨_, rfl, fun rest => ?_⟩
    rw [List.append_assoc, List.singleton_append, readString, piecesReadBack, Option.map_some]
    dsimp only
    rw [charactersOfPieces, Option.map_some, String.ofList_toList]

theorem skipNone {c : Char} (printed : isJsonBlank c = false) (rest : List Char) : skipBlanks (c :: rest) = c :: rest :=
  List.dropWhile_cons_of_neg (by simp [printed])

namespace Value

inductive Formed : Value → Prop where
  | null : Formed null
  | bool (b : Bool) : Formed (bool b)
  | number {n : Number} (formed : n.Formed) : Formed (number n)
  | string (text : Option String) : Formed (string text)
  | array {items : List Value} (each : ∀ v ∈ items, Formed v) : Formed (array items)
  | object {members : List (Option String × Value)} (each : ∀ m ∈ members, Formed m.2) : Formed (object members)

/-- The value is read off the front of a text. Its own length is bound enough for the readers in one another. -/
def ReadsBack (v : Value) : Prop :=
  ∀ (fuel : Nat) (rest : List Char), v.write.length ≤ fuel → Ends isNumberPart rest →
    readValue fuel (v.write ++ rest) = some (v, rest)

theorem itemsEnd (items : List Value) (rest : List Char) : Ends isNumberPart (writeItems items ++ rest) := by
  cases items with
  | nil => exact endsCons rfl _
  | cons v items => exact endsCons rfl _

theorem membersEnd (members : List (Option String × Value)) (rest : List Char) :
    Ends isNumberPart (writeMembers members ++ rest) := by
  cases members with
  | nil => exact endsCons rfl _
  | cons m members => exact endsCons rfl _

theorem itemsReadBack {v : Value} {items : List Value} (each : ∀ w ∈ v :: items, w.ReadsBack) {fuel : Nat}
    (room : (v.write ++ writeItems items).length ≤ fuel) (rest : List Char) :
    readItems fuel (v.write ++ (writeItems items ++ rest)) = some (v :: items, rest) := by
  induction items generalizing v fuel with
  | nil =>
    rw [List.length_append, writeItems, List.length_singleton] at room
    cases fuel with
    | zero => contradiction
    | succ fuel =>
      have first := each v List.mem_cons_self fuel _ (Nat.le_of_succ_le_succ room) (itemsEnd [] rest)
      rw [readItems, first]
      rfl
  | cons w items ih =>
    rw [List.length_append, writeItems, List.length_cons] at room
    cases fuel with
    | zero => contradiction
    | succ fuel =>
      have first := each v List.mem_cons_self fuel _ (by omega) (itemsEnd (w :: items) rest)
      have others : readItems fuel (w.write ++ (writeItems items ++ rest)) = some (w :: items, rest) :=
        ih (fun u inside => each u (List.mem_cons_of_mem v inside)) (by omega)
      rw [readItems, first, writeItems, List.cons_append, List.append_assoc]
      show (readItems fuel (w.write ++ (writeItems items ++ rest))).map _ = _
      rw [others, Option.map_some]

def memberText (name : Option String) (v : Value) : List Char := writeString name ++ ':' :: v.write

section Member
variable (name : Option String) {v : Value} {fuel : Nat} {rest : List Char}

theorem lastMemberReadBack (value : readValue fuel (v.write ++ '\x7d' :: rest) = some (v, '\x7d' :: rest)) :
    readMembers (fuel + 1) (memberText name v ++ '\x7d' :: rest) = some ([(name, v)], rest) := by
  obtain ⟨body, text, read⟩ := stringReadBack name
  simp [memberText, text, readMembers, read, value, skipNone, isJsonBlank]

theorem nextMemberReadBack (value : readValue fuel (v.write ++ ',' :: rest) = some (v, ',' :: rest)) :
    readMembers (fuel + 1) (memberText name v ++ ',' :: rest) =
      (readMembers fuel rest).map fun (members, rest) => ((name, v) :: members, rest) := by
  obtain ⟨body, text, read⟩ := stringReadBack name
  simp [memberText, text, readMembers, read, value, skipNone, isJsonBlank]

end Member

theorem membersReadBack {name : Option String} {v : Value} {members : List (Option String × Value)}
    (each : ∀ m ∈ (name, v) :: members, m.2.ReadsBack) {fuel : Nat}
    (room : (v.write ++ writeMembers members).length ≤ fuel) (rest : List Char) :
    readMembers fuel (memberText name v ++ (writeMembers members ++ rest)) = some ((name, v) :: members, rest) := by
  induction members generalizing name v fuel with
  | nil =>
    rw [List.length_append, writeMembers, List.length_singleton] at room
    cases fuel with
    | zero => contradiction
    | succ fuel =>
      have first := each (name, v) List.mem_cons_self fuel _ (Nat.le_of_succ_le_succ room) (membersEnd [] rest)
      exact lastMemberReadBack name first
  | cons m members ih =>
    rw [List.length_append, writeMembers, List.length_cons] at room
    simp only [List.length_append, List.length_cons] at room
    cases fuel with
    | zero => contradiction
    | succ fuel =>
      have first := each (name, v) List.mem_cons_self fuel _ (show v.write.length ≤ fuel by omega)
        (membersEnd (m :: members) rest)
      have others : readMembers fuel (memberText m.1 m.2 ++ (writeMembers members ++ rest)) =
          some (m :: members, rest) :=
        ih (fun u inside => each u (List.mem_cons_of_mem _ inside)) (by rw [List.length_append]; omega)
      have text : writeMembers (m :: members) ++ rest =
          ',' :: (memberText m.1 m.2 ++ (writeMembers members ++ rest)) := by
        simp [writeMembers, memberText]
      rw [text] at first ⊢
      rw [nextMemberReadBack name first, others, Option.map_some]

def startsNumber (c : Char) : Bool := c == '-' || isAsciiDigit c

theorem numberStart {n : Number} (formed : n.Formed) : ∃ c r, n.write = c :: r ∧ startsNumber c := by
  rw [numberText]
  split
  · exact ⟨_, _, rfl, rfl⟩
  · obtain ⟨c, r, whole, digit⟩ := formed.start
    rw [unsignedText, whole]
    exact ⟨c, _, rfl, Bool.or_eq_true_iff.2 (.inr digit)⟩

theorem startIsNot {c : Char} (start : startsNumber c) {mark : Char} (other : startsNumber mark = false) :
    c ≠ mark := by
  rintro rfl
  rw [other] at start
  contradiction

theorem startNotBlank {c : Char} (start : startsNumber c) : isJsonBlank c = false := by
  simp only [isJsonBlank, Bool.or_eq_false_iff, beq_eq_false_iff_ne]
  exact ⟨⟨⟨startIsNot start rfl, startIsNot start rfl⟩, startIsNot start rfl⟩,
    startIsNot start rfl⟩

theorem formedStart {v : Value} (formed : v.Formed) : ∃ c r, v.write = c :: r ∧ isJsonBlank c = false ∧ c ≠ ']' := by
  cases formed with
  | null => exact ⟨_, _, rfl, rfl, by decide⟩
  | bool b => cases b <;> exact ⟨_, _, rfl, rfl, by decide⟩
  | string text =>
    obtain ⟨body, written, -⟩ := stringReadBack text
    exact ⟨_, _, written, rfl, by decide⟩
  | number formed =>
    obtain ⟨c, r, written, start⟩ := numberStart formed
    exact ⟨c, r, written, startNotBlank start, startIsNot start rfl⟩
  | @array items each => cases items <;> exact ⟨_, _, rfl, rfl, by decide⟩
  | @object members each => cases members <;> exact ⟨_, _, rfl, rfl, by decide⟩

theorem readValueNumber {c : Char} (start : startsNumber c) (fuel : Nat) (r : List Char) :
    readValue (fuel + 1) (c :: r) = (readNumber (c :: r)).map fun (n, rest) => (.number n, rest) := by
  have apart : ∀ mark rest, startsNumber mark = false → c :: r ≠ mark :: rest := by
    intro mark rest other same
    exact startIsNot start other (List.cons.inj same).1
  rw [readValue, skipNone (startNotBlank start)]
  split <;> rename_i same
  all_goals first
    | exact absurd same (apart _ _ (by decide))
    | rfl

theorem readValueArray {c : Char} (printed : isJsonBlank c = false) (more : c ≠ ']') (fuel : Nat) (r : List Char) :
    readValue (fuel + 1) ('[' :: c :: r) = (readItems fuel (c :: r)).map fun (items, rest) => (.array items, rest) := by
  have opening : skipBlanks ('[' :: c :: r) = '[' :: c :: r := rfl
  simp [readValue, opening, skipNone printed, more]

theorem readsBackOfRoom {v : Value} (formed : v.Formed) (each : ∀ fuel rest, v.write.length ≤ fuel + 1 →
    Ends isNumberPart rest → readValue (fuel + 1) (v.write ++ rest) = some (v, rest)) : v.ReadsBack := by
  intro fuel rest room ends
  obtain ⟨c, r, start, -⟩ := formedStart formed
  cases fuel with
  | zero => exact absurd room (by simp [start])
  | succ fuel => exact each fuel rest room ends

theorem formedReadsBack {v : Value} (formed : v.Formed) : v.ReadsBack := by
  induction formed with
  | null => exact readsBackOfRoom .null fun _ _ _ _ => rfl
  | bool b => exact readsBackOfRoom (.bool b) fun _ _ _ _ => by cases b <;> rfl
  | string text =>
    refine readsBackOfRoom (.string text) fun fuel rest room ends => ?_
    obtain ⟨body, written, read⟩ := stringReadBack text
    rw [write, written, List.cons_append]
    show (readString (body ++ rest)).map _ = _
    rw [read, Option.map_some]
  | number formed =>
    refine readsBackOfRoom (.number formed) fun fuel rest room ends => ?_
    obtain ⟨c, r, written, start⟩ := numberStart formed
    have read := numberReadBack formed ends
    rw [write]
    rw [written, List.cons_append] at read ⊢
    rw [readValueNumber start, read, Option.map_some]
  | @array items each ih =>
    refine readsBackOfRoom (.array each) fun fuel rest room ends => ?_
    cases items with
    | nil => rfl
    | cons v items =>
      have read := itemsReadBack ih (Nat.le_of_succ_le_succ room) rest
      obtain ⟨c, r, start, printed, more⟩ := formedStart (each v List.mem_cons_self)
      rw [write, List.cons_append, List.append_assoc]
      rw [start, List.cons_append] at read ⊢
      rw [readValueArray printed more, read, Option.map_some]
  | @object members each ih =>
    refine readsBackOfRoom (.object each) fun fuel rest room ends => ?_
    cases members with
    | nil => rfl
    | cons m members =>
      obtain ⟨name, v⟩ := m
      have short : (v.write ++ writeMembers members).length ≤ fuel := by
        simp only [write, List.length_cons, List.length_append] at room ⊢
        omega
      have read := membersReadBack ih short rest
      obtain ⟨body, start, -⟩ := stringReadBack name
      simp only [write, memberText, start, List.cons_append, List.append_assoc] at read ⊢
      show (readMembers fuel ('"' :: _)).map _ = _
      rw [read, Option.map_some]

theorem readWritten {v : Value} (formed : v.Formed) : read? v.write = some v := by
  have read := formedReadsBack formed (2 * v.write.length + 2) [] (by omega) (by simp [Ends])
  rw [List.append_nil] at read
  simp [read?, read, skipBlanks]

theorem parseText {v : Value} (formed : v.Formed) : parse? v.text = some v := by
  rw [parse?, text, String.toList_ofList, readWritten formed]

end Value
end Postboard.Json
