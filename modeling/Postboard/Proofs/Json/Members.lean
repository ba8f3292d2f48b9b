import Postboard.Proofs.Json.Fields

/-! Records as they are read from objects. What an object tells of a field is in the members under the names of
that field, wherever they stand and whatever else is there; two of them are never read. Objects count whose names
are texts, and records that are written as arrays are not covered. -/
namespace Postboard.Json

def valuesOf (names : List String) (members : List (String × Value)) : List Value :=
  (members.filter fun m => m.1 ∈ names).map (·.2)

/-- What the values under the names of a field tell: the only one is read as this, or there is none and the field
has this default. -/
inductive Tells {α : Type} (decode : Value → Option α) (default : Option α) : List Value → α → Prop where
  | given {v : Value} {a : α} (read : decode v = some a) : Tells decode default [v] a
  | missing {a : α} (stands : default = some a) : Tells decode default [] a

/-- The text is an object with these members, in any order, among others that have names of no field. -/
def Presents (fields : List (List String)) (text : String) (known : List (String × Value)) : Prop :=
  ∃ members unknown : List (String × Value), Value.parse? text = some (.record members) ∧
    members.Perm (known ++ unknown) ∧ ∀ m ∈ unknown, ∀ names ∈ fields, m.1 ∉ names

theorem presentsWritten {fields : List (List String)} {members known unknown : List (String × Value)}
    (perm : members.Perm (known ++ unknown)) (apart : ∀ m ∈ unknown, ∀ names ∈ fields, m.1 ∉ names)
    (each : ∀ m ∈ members, m.2.Formed) : Presents fields (Value.record members).text known :=
  ⟨members, unknown, Value.parseText (recordFormed each), perm, apart⟩

theorem Presents.reordered {fields : List (List String)} {text : String} {known others : List (String × Value)}
    (presents : Presents fields text known) (perm : known.Perm others) : Presents fields text others := by
  obtain ⟨members, unknown, read, also, apart⟩ := presents
  exact ⟨members, unknown, read, also.trans (perm.append_right unknown), apart⟩

section Values
variable {names : List String} {name : String} {v : Value} {members others : List (String × Value)}

theorem valuesHere (here : name ∈ names) : valuesOf names ((name, v) :: members) = v :: valuesOf names members := by
  rw [valuesOf, List.filter_cons_of_pos (by simpa using here)]
  rfl

theorem valuesElsewhere (elsewhere : name ∉ names) : valuesOf names ((name, v) :: members) = valuesOf names members := by
  rw [valuesOf, List.filter_cons_of_neg (by simpa using elsewhere)]
  rfl

theorem valuesAppend : valuesOf names (members ++ others) = valuesOf names members ++ valuesOf names others := by
  rw [valuesOf, List.filter_append, List.map_append]
  rfl

theorem valuesUnknown (unknown : ∀ m ∈ members, m.1 ∉ names) : valuesOf names members = [] := by
  rw [valuesOf, List.filter_eq_nil_iff.2 fun m inside => by simpa using unknown m inside]
  rfl

theorem valuesPresented {fields : List (List String)} {known unknown : List (String × Value)}
    (perm : members.Perm (known ++ unknown)) (apart : ∀ m ∈ unknown, ∀ names ∈ fields, m.1 ∉ names)
    (field : names ∈ fields) : (valuesOf names members).Perm (valuesOf names known) := by
  have kept := (perm.filter fun m => m.1 ∈ names).map (·.2)
  have none : valuesOf names unknown = [] := valuesUnknown fun m inside => apart m inside names field
  rwa [← valuesOf, ← valuesOf, valuesAppend, none, List.append_nil] at kept

end Values

section Telling
variable {α : Type} {decode : Value → Option α} {default : Option α} {values others : List Value} {v : Value} {a : α}

theorem Tells.same (perm : values.Perm others) (tells : Tells decode default values a) :
    Tells decode default others a := by
  cases tells with
  | given read => exact List.singleton_perm.1 perm ▸ .given read
  | missing stands => exact List.nil_perm.1 perm ▸ .missing stands

theorem tellsFirst (tells : Tells decode default (v :: values) a) : values = [] ∧ decode v = some a := by
  cases tells with
  | given read => exact ⟨rfl, read⟩

theorem tellsNone (tells : Tells decode default [] a) : default = some a := by
  cases tells with
  | missing stands => exact stands

end Telling

def slotOf : List Value → Option Slot
  | [] => some .missing
  | [v] => some (.given v)
  | _ => none

section Slots
variable {α : Type} {decode : Value → Option α} {a : α}

theorem findMemberRecord (names : List String) (members : List (String × Value)) :
    findMember names (members.map fun (name, v) => (some name, v)) = slotOf (valuesOf names members) := by
  have kept : ((fun m : Option String × Value => names.any (some · == m.1)) ∘
      fun m : String × Value => (some m.1, m.2)) = fun m => decide (m.1 ∈ names) := by
    funext m
    rw [Bool.eq_iff_iff]
    simp
  rw [findMember, List.filter_map, kept, valuesOf]
  cases members.filter fun m => decide (m.1 ∈ names) with
  | nil => rfl
  | cons m more => cases more <;> rfl

theorem slotsRecord (fields : List (List String)) (members : List (String × Value)) :
    slots? fields (.record members) = fields.mapM fun names => slotOf (valuesOf names members) := by
  have texts : (members.map fun (name, v) => (some name, v)).all (·.1.isSome) := by simp
  rw [Value.record, slots?, if_pos texts]
  simp only [findMemberRecord]

def Slot.read (default : Option α) (decode : Value → Option α) : Slot → Option α
  | given v => decode v
  | _ => default

theorem requiredRead (slot : Slot) : slot.required decode = slot.read none decode := by
  cases slot <;> rfl

theorem orElseRead (slot : Slot) (default : α) : slot.orElse default decode = slot.read (some default) decode := by
  cases slot <;> rfl

theorem readTells {default : Option α} {values : List Value} :
    (∃ slot, slotOf values = some slot ∧ slot.read default decode = some a) ↔ Tells decode default values a := by
  constructor
  · rintro ⟨slot, found, read⟩
    unfold slotOf at found
    split at found
    · cases found
      exact .missing read
    · cases found
      exact .given read
    · contradiction
  · intro tells
    cases tells with
    | @given v _ read => exact ⟨.given v, rfl, read⟩
    | missing stands => exact ⟨.missing, rfl, stands⟩

end Slots

section Repeated
variable {fields : List (List String)} {names : List String} {members rest : List (Option String × Value)}
  {a b : String} {v w : Value}

theorem mapMOfNone {α β : Type} {f : α → Option β} {as : List α} {a : α} (inside : a ∈ as) (none : f a = none) :
    as.mapM f = .none := by
  induction as with
  | nil => contradiction
  | cons first as ih =>
    rw [List.mapM_cons]
    rcases List.mem_cons.1 inside with rfl | later
    · rw [none]
      rfl
    · cases f first with
      | none => rfl
      | some b =>
        rw [ih later]
        rfl

/- Whatever the two values are, and whatever names the other members have. -/
theorem slotsRepeated (field : names ∈ fields) (first : a ∈ names) (second : b ∈ names)
    (perm : members.Perm ((some a, v) :: (some b, w) :: rest)) : slots? fields (.object members) = none := by
  have found : findMember names members = none := by
    have kept : (members.filter fun m => names.any (some · == m.1)).Perm
        ((some a, v) :: (some b, w) :: rest.filter fun m => names.any (some · == m.1)) := by
      have pair := perm.filter fun m => names.any (some · == m.1)
      rwa [List.filter_cons_of_pos (by simpa using first), List.filter_cons_of_pos (by simpa using second)] at pair
    have length := kept.length_eq
    unfold findMember
    split
    · rename_i none
      exact absurd (none ▸ length) (by simp)
    · rename_i one
      exact absurd (one ▸ length) (by simp)
    · rfl
  unfold slots?
  dsimp only
  split
  · exact mapMOfNone field found
  · rfl

end Repeated

end Postboard.Json
