import Marionette.Json.Decode
import Marionette.Proofs.Json.Reading

/-!
# Decoders undo encoders

The fields of a structure may be read from an object or from an array.  An object that has every field once
and in the declared order is read just as the array of its values, faults included, so that nothing more
need be known of names.  The decoders of simple values give back what was written.

## Main definitions

* `Json.Fields.names`, `Json.Fields.Distinct` — the names of fields, and that none is another's.

## Main results

* `Json.Fields.decode_record` — an object with the fields in order is read as an array.
* `Json.decodeList_map`, `Json.decodeOptional_optional`, `Json.decodeUInt64_nat` — the decoders of values.
* `Json.exists_ok_of_decodeList` — each element of a decoded array can be decoded.
* `Json.parse_pretty` — a written value is decoded as it is.
-/

namespace Marionette

/-! ### Computations that may fail -/

theorem Except.bind_eq_ok_iff {ε α β : Type} {x : Except ε α} {f : α → Except ε β} {b : β} :
    (x >>= f) = .ok b ↔ ∃ a, x = .ok a ∧ f a = .ok b := by
  rcases x with e | a
  · constructor
    · rintro ⟨⟩
    · rintro ⟨a, ⟨⟩, -⟩
  · constructor
    · intro h
      exact ⟨a, rfl, h⟩
    · rintro ⟨a', ⟨⟩, h⟩
      exact h

theorem Except.mapError_eq_ok_iff {ε ε' α : Type} {x : Except ε α} {f : ε → ε'} {a : α} :
    x.mapError f = .ok a ↔ x = .ok a := by
  rcases x with e | a'
  · constructor <;> rintro ⟨⟩
  · constructor <;> rintro ⟨⟩ <;> rfl

namespace Json

/-! ### Simple values -/

theorem decodeText_text (s : String) : decodeText (text s) = .ok s := rfl

theorem decodeUInt64_nat (n : UInt64) : decodeUInt64 (nat n.toNat) = .ok n := by
  have hle : n.toNat ≤ UInt64.size - 1 := Nat.le_pred_of_lt n.toNat_lt
  have hkeep : (some n.toNat).filter (· ≤ UInt64.size - 1) = some n.toNat := by
    rw [Option.filter_some, if_pos (decide_eq_true hle)]
  rw [decodeUInt64, nat, decodeNat, Numeral.toNat?_ofNat, hkeep]
  exact congrArg Except.ok UInt64.ofNat_toNat

/-- A value that is not written as `null` is read as a value. -/
theorem decodeOptional_optional {α : Type} {decode : Decoder α} {encode : α → Json}
    (hnull : ∀ a, encode a ≠ null) (h : ∀ a, decode (encode a) = .ok a) (a? : Option α) :
    decodeOptional decode (optional encode a?) = .ok a? := by
  cases a? with
  | none => rfl
  | some a =>
    rw [optional, decodeOptional.eq_def]
    split
    · next heq => exact absurd heq (hnull a)
    · rw [h]
      rfl

/-- The items of an array are read one by one. -/
theorem decodeList_map {α β : Type} {decode : Decoder β} {encode : α → Json} {f : α → β} {as : List α}
    (h : ∀ a ∈ as, decode (encode a) = .ok (f a)) :
    decodeList decode (list (as.map encode)) = .ok (as.map f) := by
  have hmap : (as.map encode).mapM decode = .ok (as.map f) := by
    induction as with
    | nil => rfl
    | cons a as ih =>
      rw [List.map_cons, List.mapM_cons, h a List.mem_cons_self,
        ih fun b hb => h b (List.mem_cons_of_mem a hb)]
      rfl
  rw [list, decodeList, hmap]
  rfl

theorem decodeList_map_of_forall {α : Type} {decode : Decoder α} {encode : α → Json}
    (h : ∀ a, decode (encode a) = .ok a) (as : List α) :
    decodeList decode (list (as.map encode)) = .ok as := by
  have hmap : decodeList decode (list (as.map encode)) = .ok (as.map id) := decodeList_map fun a _ => h a
  rwa [List.map_id] at hmap

/-- Every item of an array that can be read can be read. -/
theorem exists_ok_of_decodeList {α β : Type} {decode : Decoder β} {encode : α → Json} {as : List α}
    {bs : List β} (h : decodeList decode (list (as.map encode)) = .ok bs) {a : α} (ha : a ∈ as) :
    ∃ b, decode (encode a) = .ok b := by
  obtain ⟨bs, hbs, -⟩ := Except.bind_eq_ok_iff.mp h
  clear h
  induction as generalizing bs with
  | nil => cases ha
  | cons a' as ih =>
    rw [List.map_cons, List.mapM_cons] at hbs
    obtain ⟨b, hfirst, hbs⟩ := Except.bind_eq_ok_iff.mp hbs
    obtain ⟨bs', hrest, -⟩ := Except.bind_eq_ok_iff.mp hbs
    rcases List.mem_cons.mp ha with rfl | ha
    · exact ⟨b, hfirst⟩
    · exact ih ha bs' hrest

/-! ### Structures -/

namespace Fields

variable {τ : Type} {τs : List Type}

/-- The names of the fields, in order. -/
def names : {τs : List Type} → Fields τs → List String
  | _, nil => []
  | _, cons name _ _ _ rest => name :: rest.names

/-- No field goes by the name of a later one. -/
def Distinct : {τs : List Type} → Fields τs → Prop
  | _, nil => True
  | _, cons name aliases _ _ rest => (∀ key ∈ rest.names, ¬(key = name ∨ key ∈ aliases)) ∧ rest.Distinct

theorem readMember_cons {name : String} {aliases : List String} {decode : Decoder τ}
    {default? : Option τ} {rest : Fields τs} (key : String) (v : Json) (slot : Option τ) (slots : Slots τs) :
    (cons name aliases decode default? rest).readMember key v (slot, slots) =
      if key = name ∨ key ∈ aliases then
        match slot with
        | some _ => .error (.duplicateField name)
        | none => (decode v).map fun value => (some value, slots)
      else (rest.readMember key v slots).map fun slots => (slot, slots) := rfl

/-- Members that go by other names leave the slot of the first field alone. -/
theorem readMembers_cons_of_forall_not {name : String} {aliases : List String} {decode : Decoder τ}
    {default? : Option τ} {rest : Fields τs} {members : List (String × Json)}
    (h : ∀ m ∈ members, ¬(m.1 = name ∨ m.1 ∈ aliases)) (slot : Option τ) (slots : Slots τs) :
    (cons name aliases decode default? rest).readMembers (members.map fun m => (some m.1, m.2))
        (slot, slots) =
      (rest.readMembers (members.map fun m => (some m.1, m.2)) slots).map fun slots => (slot, slots) := by
  induction members generalizing slots with
  | nil => rfl
  | cons m ms ih =>
    rw [List.map_cons, readMembers, readMembers, readMember_cons, if_neg (h m List.mem_cons_self)]
    rcases rest.readMember m.1 m.2 slots with e | slots'
    · rfl
    · exact ih (fun m' hm' => h m' (List.mem_cons_of_mem m hm')) slots'

/-- Members in the declared order fill the slots as items do. -/
theorem readMembers_eq_readItems (fs : Fields τs) (hdistinct : fs.Distinct)
    {members : List (String × Json)} (hnames : members.map (·.1) = fs.names) :
    (fs.readMembers (members.map fun m => (some m.1, m.2)) fs.noSlots >>= fs.complete) =
      fs.readItems true (members.map (·.2)) := by
  induction fs generalizing members with
  | nil =>
    obtain rfl : members = [] := List.map_eq_nil_iff.mp hnames
    rfl
  | cons name aliases decode default? rest ih =>
    obtain ⟨⟨key, v⟩, ms, rfl, rfl, hms⟩ := List.map_eq_cons_iff.mp hnames
    obtain ⟨hfirst, hrest⟩ := hdistinct
    have hothers : ∀ m ∈ ms, ¬(m.1 = key ∨ m.1 ∈ aliases) := fun m hm =>
      hfirst m.1 (hms ▸ List.mem_map_of_mem hm)
    rw [List.map_cons, List.map_cons, noSlots, readMembers, readMember_cons, if_pos (.inl rfl), readItems,
      ← ih hrest hms]
    rcases hv : decode v with e | value
    · rfl
    · change ((cons key aliases decode default? rest).readMembers _ (some value, rest.noSlots) >>= _) = _
      rw [readMembers_cons_of_forall_not hothers]
      generalize rest.readMembers (ms.map fun m => (some m.1, m.2)) rest.noSlots = read
      rcases read with e | slots
      · rfl
      · change (rest.complete slots).map (fun values => (value, values)) =
          rest.complete slots >>= fun values => .ok (value, values)
        rcases rest.complete slots with e | values <;> rfl

/-- **An object that has the fields in order is read as the array of its values.** -/
theorem decode_record {α : Type} (fs : Fields τs) (make : Values τs → α) (hdistinct : fs.Distinct)
    {members : List (String × Json)} (hnames : members.map (·.1) = fs.names) :
    fs.decode make (record members) = make <$> fs.readItems true (members.map (·.2)) := by
  rw [← readMembers_eq_readItems fs hdistinct hnames, record, decode]
  simp only [if_true]
  generalize fs.readMembers (members.map fun m => (some m.1, m.2)) fs.noSlots = read
  rcases read with e | slots <;> rfl

end Fields

/-! ### Whole texts -/

/-- A written value is decoded as it is. -/
theorem parse_pretty {α : Type} (decode : Decoder α) {v : Json} (h : Written v) :
    parse decode v.pretty.toList = decode v := by
  rw [parse, read_pretty h]
  dsimp only
  rcases decode v with e | a <;> rfl

end Json

end Marionette
