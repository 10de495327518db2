/-
  ProviiSdk.Core.Document — reading and writing typed JSON documents.

  What a derived `Deserialize` does with a parsed document: a struct is
  read from an object or from an array, a known field may occur once,
  unknown fields are skipped or refused, and a missing field is an error
  unless it is optional.  An array ends a struct early only where the
  remaining fields have defaults.

  Main results:
    * `asI32_ofI32`, `asU32_ofU32`, `asU64_ofU64` — integers read back
      as they were written.
    * `slots_obj` — the fields a reader sees in an object that has each
      of them once.
    * `slots_congr` — a reader sees no members but those of its fields.
-/

import ProviiSdk.Core.Types
import ProviiSdk.Lib.Text

namespace ProviiSdk.Core

open ProviiSdk.Text

/-! ## §1. Numbers -/

/-- The value of a number literal that is an integer of 64 bits.  Every
    other number is a float, `-0` included. -/
def integerOf : List Char → Option Int
  | '-' :: ds =>
    match parseDigits 9223372036854775809 ds with
    | some (n + 1) => some (-(n + 1 : Nat))
    | _ => none
  | ds => (parseDigits 18446744073709551616 ds).map Int.ofNat

def Json.asInt : Json → Option Int
  | .num text => integerOf text.toList
  | _ => none

/-- Serde's reading at `i32`, `u32` and `u64`. -/
def Json.asI32 (v : Json) : Option Int32 :=
  v.asInt.bind fun i =>
    if -2147483648 ≤ i ∧ i ≤ 2147483647 then some (Int32.ofInt i) else none

def Json.asU32 (v : Json) : Option UInt32 :=
  v.asInt.bind fun i => if 0 ≤ i ∧ i ≤ 4294967295 then some (UInt32.ofNat i.toNat) else none

def Json.asU64 (v : Json) : Option UInt64 :=
  v.asInt.bind fun i =>
    if 0 ≤ i ∧ i ≤ 18446744073709551615 then some (UInt64.ofNat i.toNat) else none

/-- The literal of an integer. -/
def intText (i : Int) : String :=
  String.ofList (if i < 0 then '-' :: decimal i.natAbs else decimal i.natAbs)

def Json.ofI32 (i : Int32) : Json := .num (intText i.toInt)
def Json.ofU32 (n : UInt32) : Json := .num (intText n.toNat)
def Json.ofU64 (n : UInt64) : Json := .num (intText n.toNat)

/-- A 64-bit integer reads back from its literal. -/
theorem asInt_intText (i : Int) (hlo : -9223372036854775808 ≤ i) (hhi : i < 18446744073709551616) :
    (Json.num (intText i)).asInt = some i := by
  show integerOf (intText i).toList = some i
  unfold intText
  rw [String.toList_ofList]
  by_cases hneg : i < 0
  · have hparse := parseDigits_decimal 9223372036854775809 i.natAbs (by omega)
    obtain ⟨n, hn⟩ : ∃ n, i.natAbs = n + 1 := ⟨i.natAbs - 1, by omega⟩
    rw [hn] at hparse
    rw [if_pos hneg, hn]
    unfold integerOf
    simp only [hparse, Option.some.injEq]
    omega
  · have hparse := parseDigits_decimal 18446744073709551616 i.natAbs (by omega)
    rw [if_neg hneg]
    unfold integerOf
    split
    next ds e => exact absurd e (decimal_ne_cons _ '-' (by decide) ds)
    next ds _ =>
      rw [hparse, Option.map_some, Option.some.injEq]
      show (i.natAbs : Int) = i
      omega

theorem asI32_ofI32 (i : Int32) : (Json.ofI32 i).asI32 = some i := by
  have hlo := Int32.le_toInt i
  have hhi := Int32.toInt_lt i
  unfold Json.asI32 Json.ofI32
  rw [asInt_intText _ (by omega) (by omega), Option.bind_some, if_pos ⟨by omega, by omega⟩,
    Int32.ofInt_toInt]

theorem asU32_ofU32 (n : UInt32) : (Json.ofU32 n).asU32 = some n := by
  have hlt : n.toNat < 4294967296 := n.toNat_lt
  unfold Json.asU32 Json.ofU32
  rw [asInt_intText _ (by omega) (by omega), Option.bind_some, if_pos ⟨by omega, by omega⟩,
    Int.toNat_natCast, UInt32.ofNat_toNat]

theorem asU64_ofU64 (n : UInt64) : (Json.ofU64 n).asU64 = some n := by
  have hlt : n.toNat < 18446744073709551616 := n.toNat_lt
  unfold Json.asU64 Json.ofU64
  rw [asInt_intText _ (by omega) (by omega), Option.bind_some, if_pos ⟨by omega, by omega⟩,
    Int.toNat_natCast, UInt64.ofNat_toNat]

/-! ## §2. Fields -/

/-- What a struct's reader finds in the place of a field. -/
inductive Slot where
  /-- the field's value -/
  | value (v : Json)
  /-- an object without the field -/
  | absent
  /-- an array that ends before the field -/
  | short

/-- Does a field occur at most once? -/
def atMostOnce (fields : List (String × Json)) (name : String) : Bool :=
  decide ((fields.filter fun f => f.1 == name).length ≤ 1)

/-- The slots of a struct with the fields `names`, in order; none where
    the document is no such struct. -/
def slots (names : List String) (denyUnknown : Bool) : Json → Option (String → Slot)
  | .obj fields =>
    if names.all (atMostOnce fields) && (!denyUnknown || fields.all fun f => names.contains f.1) then
      some fun name =>
        match fields.find? fun f => f.1 == name with
        | some f => .value f.2
        | none => .absent
    else none
  | .arr items =>
    if items.length ≤ names.length then
      some fun name =>
        match items[names.idxOf name]? with
        | some v => .value v
        | none => .short
    else none
  | _ => none

variable {α : Type}

/-- A required field. -/
def Slot.required (read : Json → Option α) : Slot → Option α
  | .value v => read v
  | .absent => none
  | .short => none

/-- A value that may be null. -/
def nullable (read : Json → Option α) : Json → Option (Option α)
  | .null => some none
  | v => (read v).map some

/-- An `Option` field. -/
def Slot.optional (read : Json → Option α) : Slot → Option (Option α)
  | .value v => nullable read v
  | .absent => some none
  | .short => none

/-- An `Option` field with a default. -/
def Slot.defaulted (read : Json → Option α) : Slot → Option (Option α)
  | .value v => nullable read v
  | .absent => some none
  | .short => some none

/-- An optional value, or null. -/
def Json.ofOption (write : α → Json) : Option α → Json
  | some a => write a
  | none => .null

/-- Serde's `Value::get` on a document read as a value: of repeated
    fields the last one counts. -/
def Json.valueGet (key : String) : Json → Option Json
  | .obj fields => (fields.reverse.find? fun f => f.1 == key).map (·.2)
  | _ => none

/-- A field that is read has one value. -/
theorem required_eq_some_iff (read : Json → Option α) (s : Slot) (a : α) :
    s.required read = some a ↔ ∃ v, s = .value v ∧ read v = some a := by
  cases s with
  | value v =>
    constructor
    · intro h
      exact ⟨v, rfl, h⟩
    · rintro ⟨v', hv, h⟩
      injection hv with hv
      rw [hv]
      exact h
  | absent =>
    refine iff_of_false (by simp [Slot.required]) ?_
    rintro ⟨v, hv, -⟩
    cases hv
  | short =>
    refine iff_of_false (by simp [Slot.required]) ?_
    rintro ⟨v, hv, -⟩
    cases hv

/-- **The slots of an object** that has every field once, when unknown
    fields are skipped. -/
theorem slots_obj (names : List String) (fields : List (String × Json))
    (h : names.all (atMostOnce fields) = true) :
    slots names false (.obj fields) = some fun name =>
      match fields.find? fun f => f.1 == name with
      | some f => .value f.2
      | none => .absent := by
  simp only [slots, h, Bool.true_and, Bool.not_false, Bool.true_or, if_true]

/-- The members of an object under a name. -/
def membersOf (fields : List (String × Json)) (name : String) : List (String × Json) :=
  fields.filter fun f => f.1 == name

/-- **A struct's reader sees the members under its names and no others**:
    on objects with the same ones it refuses both, or finds the same in
    the place of every field. -/
theorem slots_congr {names : List String} {fields fields' : List (String × Json)}
    (h : ∀ name ∈ names, membersOf fields' name = membersOf fields name) :
    (slots names false (.obj fields) = none ∧ slots names false (.obj fields') = none) ∨
      ∃ field field', slots names false (.obj fields) = some field ∧
        slots names false (.obj fields') = some field' ∧
        ∀ name ∈ names, field' name = field name := by
  have honce : names.all (atMostOnce fields') = names.all (atMostOnce fields) := by
    rw [Bool.eq_iff_iff, List.all_eq_true, List.all_eq_true]
    refine forall₂_congr fun name hname => ?_
    unfold atMostOnce
    have hsame := h name hname
    unfold membersOf at hsame
    rw [hsame]
  by_cases hall : names.all (atMostOnce fields) = true
  · refine Or.inr ⟨_, _, slots_obj names fields hall, slots_obj names fields' (honce.trans hall), ?_⟩
    intro name hname
    have hfind : (fields'.find? fun f => f.1 == name) = fields.find? fun f => f.1 == name := by
      have hsame := h name hname
      unfold membersOf at hsame
      rw [← List.head?_filter, ← List.head?_filter, hsame]
    simp only [hfind]
  · refine Or.inl ⟨?_, ?_⟩
    · simp only [slots, hall, Bool.false_and, Bool.false_eq_true, if_false]
    · rw [← honce] at hall
      simp only [slots, hall, Bool.false_and, Bool.false_eq_true, if_false]

/-- A member under another name is not seen. -/
theorem membersOf_insert (before after : List (String × Json)) (key name : String) (v : Json)
    (h : key ≠ name) :
    membersOf (before ++ (key, v) :: after) name = membersOf (before ++ after) name := by
  have hskip : ((key, v).1 == name) = false := beq_false_of_ne h
  unfold membersOf
  rw [List.filter_append, List.filter_append,
    List.filter_cons_of_neg (by rw [hskip]; exact Bool.false_ne_true)]

/-- What is filtered out under another name is not missed. -/
theorem membersOf_filter_ne (fields : List (String × Json)) (key name : String) (h : name ≠ key) :
    membersOf (fields.filter fun f => f.1 != key) name = membersOf fields name := by
  unfold membersOf
  rw [List.filter_filter]
  apply List.filter_congr
  intro f _
  by_cases hname : f.1 = name
  · have hother : f.1 ≠ key := fun heq => h (hname.symm.trans heq)
    simp [hname, h]
  · simp [hname]

end ProviiSdk.Core
