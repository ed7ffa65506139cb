import Marionette.Document.Project
import Marionette.Proofs.Json.Decoding
import Marionette.Proofs.Decimal.Shortest
import Marionette.Proofs.Project

/-!
# Projects are read back from their documents

A document says everything of a project but whether the stage is locked and how often it changed.  Reading
it back gives the same actors, the same flows and the same selection, on a stage that is unlocked and
unchanged.  The one reservation is about the doubles of the states.  A finite double is written as a decimal
that can be read, though reading rounds on its way and may be off in the last place.  A double that is not
finite is written as `null`, and no position, rotation or size is read from `null`: the project is written,
and then it cannot be opened again.

## Main definitions

* `ActorState.doubles` — the doubles of a state.
* `Json.Exact` — a double that is finite and read back from its decimal.
* `ActorState.reread` — a state as it is read back.

## Main results

* `ActorState.decode_encode`, `Actor.decode_encode`, `Flow.decode_encode`, `FlowBook.decode_encode`.
* `Project.ofText_toText` — a project is read back, but for the lock and the number of changes.
* `Project.exists_ofText_toText_iff` — which documents can be opened again.
-/

namespace Marionette

open Json (Written Fields)

/-! ### Doubles -/

namespace Json

/-- The double is finite, and the decimal that is written for it is read back as that double. -/
structure Exact (x : Float) : Prop where
  isFinite_eq : x.isFinite = true
  parse_eq : parse decodeFloat (float x).pretty.toList = .ok x

instance (x : Float) : Decidable (Exact x) :=
  if hfinite : x.isFinite = true then
    if hparse : parse decodeFloat (float x).pretty.toList = .ok x then .isTrue ⟨hfinite, hparse⟩
    else .isFalse fun h => hparse h.parse_eq
  else .isFalse fun h => hfinite h.isFinite_eq

/-- A double is read back from its numeral, and only if it is finite. -/
theorem decodeFloat_float_eq_ok_iff (x y : Float) :
    decodeFloat (float x) = .ok y ↔ x.isFinite = true ∧ (Numeral.ofFloat x).toFloat? = some y := by
  rw [float]
  split
  · next hfinite =>
    rw [decodeFloat]
    rcases (Numeral.ofFloat x).toFloat? with _ | z <;> simp [orMalformed, hfinite]
  · next hnot => simp [decodeFloat, hnot]

/-- **Exactly the finite doubles can be read from what is written for them.** -/
theorem exists_decodeFloat_float_iff (x : Float) :
    (∃ y, decodeFloat (float x) = .ok y) ↔ x.isFinite = true := by
  simp only [decodeFloat_float_eq_ok_iff]
  constructor
  · rintro ⟨y, hfinite, -⟩
    exact hfinite
  · intro hfinite
    obtain ⟨y, hy⟩ := Option.isSome_iff_exists.mp (Numeral.isSome_toFloat?_ofFloat hfinite)
    exact ⟨y, hfinite, hy⟩

theorem Exact.decodeFloat_eq {x : Float} (h : Exact x) : decodeFloat (float x) = .ok x := by
  rw [← parse_pretty decodeFloat (Written.float x)]
  exact h.parse_eq

end Json

/-! ### States -/

namespace ActorState

/-- The doubles of a state. -/
def doubles (s : ActorState) : List Float := [s.x, s.y, s.rotation, s.size]

/-- The state as it is read back: its doubles are read from their text, and the rest is as it was. -/
def reread (s : ActorState) : Except Json.Fault ActorState := do
  let x ← Json.decodeFloat (.float s.x)
  let y ← Json.decodeFloat (.float s.y)
  let rotation ← Json.decodeFloat (.float s.rotation)
  let size ← Json.decodeFloat (.float s.size)
  pure { s with x, y, rotation, size }

theorem written_encode (s : ActorState) : Written s.encode := by
  refine .record ?_
  simp only [List.forall_mem_cons]
  exact ⟨.float _, .float _, .float _, .float _, .optional .text _,
    .optional (fun d : UInt64 => .nat d.toNat) _, .bool _, by simp⟩

theorem distinct_fields : fields.Distinct := by
  simp [fields, Fields.required, Fields.defaulted, Fields.Distinct, Fields.names]

/-- **A state is read back as it is, but for its doubles**, which are read in order. -/
theorem decode_encode (s : ActorState) : decode s.encode = s.reread := by
  have hmessage : Json.decodeOptional Json.decodeText (.optional .text s.message) = .ok s.message :=
    Json.decodeOptional_optional (by simp [Json.text]) Json.decodeText_text s.message
  have hduration : Json.decodeOptional Json.decodeUInt64
      (.optional (fun d : UInt64 => .nat d.toNat) s.messageDuration) = .ok s.messageDuration :=
    Json.decodeOptional_optional (by simp [Json.nat]) Json.decodeUInt64_nat s.messageDuration
  rw [decode, encode, Fields.decode_record fields _ distinct_fields rfl, reread]
  simp only [fields, Fields.required, Fields.defaulted, List.map_cons, List.map_nil, Fields.readItems,
    hmessage, hduration]
  rcases Json.decodeFloat (.float s.x) with e | x
  · rfl
  rcases Json.decodeFloat (.float s.y) with e | y
  · rfl
  rcases Json.decodeFloat (.float s.rotation) with e | rotation
  · rfl
  rcases Json.decodeFloat (.float s.size) with e | size <;> rfl

/-- A state whose doubles are read back from their decimals is read back as it is. -/
theorem reread_of_exact {s : ActorState} (h : ∀ x ∈ s.doubles, Json.Exact x) : s.reread = .ok s := by
  simp only [doubles, List.forall_mem_cons] at h
  obtain ⟨hx, hy, hrotation, hsize, -⟩ := h
  rw [reread, hx.decodeFloat_eq, hy.decodeFloat_eq, hrotation.decodeFloat_eq, hsize.decodeFloat_eq]
  rfl

/-- A state can be read back when all of its doubles are finite. -/
theorem exists_reread_iff (s : ActorState) : (∃ s', s.reread = .ok s') ↔
    ∀ x ∈ s.doubles, x.isFinite = true := by
  simp only [reread, doubles, Except.bind_eq_ok_iff, List.forall_mem_cons,
    ← Json.exists_decodeFloat_float_iff]
  constructor
  · rintro ⟨_, x, hx, y, hy, rotation, hrotation, size, hsize, -⟩
    exact ⟨⟨x, hx⟩, ⟨y, hy⟩, ⟨rotation, hrotation⟩, ⟨size, hsize⟩, by simp⟩
  · rintro ⟨⟨x, hx⟩, ⟨y, hy⟩, ⟨rotation, hrotation⟩, ⟨size, hsize⟩, -⟩
    exact ⟨_, x, hx, y, hy, rotation, hrotation, size, hsize, rfl⟩

end ActorState

/-! ### Actors and flows -/

theorem Actor.distinct_fields : Actor.fields.Distinct := by
  simp [fields, Fields.required, Fields.defaulted, Fields.Distinct, Fields.names]

/-- An actor is read back as it is, but for the doubles of its state. -/
theorem Actor.decode_encode (a : Actor) :
    decode a.encode = a.state.reread.map fun state => { a with state } := by
  rw [decode, encode, Fields.decode_record fields _ distinct_fields rfl, ← ActorState.decode_encode]
  simp only [fields, Fields.required, Fields.defaulted, List.map_cons, List.map_nil, Fields.readItems]
  rcases ActorState.decode a.state.encode with e | state <;> rfl

theorem Actor.written_encode (a : Actor) : Written a.encode := by
  refine .record ?_
  simp only [List.forall_mem_cons]
  exact ⟨.text _, .text _, .text _, a.state.written_encode, by simp⟩

theorem ActionBlock.distinct_fields : ActionBlock.fields.Distinct := by
  simp [fields, Fields.required, Fields.Distinct, Fields.names]

/-- A block is read back as it is. -/
theorem ActionBlock.decode_encode (b : ActionBlock) : decode b.encode = .ok b := by
  have hnull : ∀ a : ActorId, a.encode ≠ .null := by simp [ActorId.encode, Json.text]
  have htarget : Json.decodeOptional ActorId.decode (.optional ActorId.encode b.target) = .ok b.target :=
    Json.decodeOptional_optional hnull (fun _ => rfl) b.target
  rw [decode, encode, Fields.decode_record fields _ distinct_fields rfl]
  simp only [fields, Fields.required, List.map_cons, List.map_nil, Fields.readItems, htarget]
  rfl

theorem ActionBlock.written_encode (b : ActionBlock) : Written b.encode := by
  refine .record ?_
  simp only [List.forall_mem_cons]
  exact ⟨.text _, .text _, .optional (fun a : ActorId => .text a.text) _, by simp⟩

theorem Flow.distinct_fields : Flow.fields.Distinct := by
  simp [fields, Fields.required, Fields.defaulted, Fields.Distinct, Fields.names]

/-- A flow is read back as it is. -/
theorem Flow.decode_encode (f : Flow) : decode f.encode = .ok f := by
  have hblocks : Json.decodeList ActionBlock.decode (.list (f.blocks.map ActionBlock.encode)) =
      .ok f.blocks := Json.decodeList_map_of_forall ActionBlock.decode_encode f.blocks
  rw [decode, encode, Fields.decode_record fields _ distinct_fields rfl]
  simp only [fields, Fields.required, Fields.defaulted, List.map_cons, List.map_nil, Fields.readItems, hblocks]
  rfl

theorem Flow.written_encode (f : Flow) : Written f.encode := by
  refine .record ?_
  simp only [List.forall_mem_cons]
  exact ⟨.text _, .text _, .map ActionBlock.written_encode _, by simp⟩

theorem FlowBook.distinct_fields : FlowBook.fields.Distinct := by
  simp [fields, Fields.required, Fields.Distinct, Fields.names]

/-- A book is read back as it is. -/
theorem FlowBook.decode_encode (b : FlowBook) : decode b.encode = .ok b := by
  have hflows : Json.decodeList Flow.decode (.list (b.flows.map Flow.encode)) = .ok b.flows :=
    Json.decodeList_map_of_forall Flow.decode_encode b.flows
  rw [decode, encode, Fields.decode_record fields _ distinct_fields rfl]
  simp only [fields, Fields.required, List.map_cons, List.map_nil, Fields.readItems, hflows]
  rfl

theorem FlowBook.written_encode (b : FlowBook) : Written b.encode := by
  refine .record ?_
  simp only [List.forall_mem_cons]
  exact ⟨.map Flow.written_encode _, .text _, by simp⟩

/-! ### Stages and projects -/

namespace Stage

theorem distinct_fields : fields.Distinct := by
  simp [fields, Fields.required, Fields.Distinct, Fields.names]

/-- A stage is read from the list of its actors. -/
theorem decode_encode (s : Stage) : decode s.encode =
    (Json.decodeList Actor.decode (.list (s.actors.map Actor.encode))).map fun actors => { actors } := by
  rw [decode, encode, Fields.decode_record fields _ distinct_fields rfl]
  simp only [fields, Fields.required, List.map_cons, List.map_nil, Fields.readItems]
  rcases Json.decodeList Actor.decode (.list (s.actors.map Actor.encode)) with e | actors <;> rfl

theorem written_encode (s : Stage) : Written s.encode := by
  refine .record ?_
  simp only [List.forall_mem_cons]
  exact ⟨.map Actor.written_encode _, by simp⟩

end Stage

namespace Project

theorem distinct_fields : fields.Distinct := by
  simp [fields, Fields.defaulted, Fields.Distinct, Fields.names]

theorem decode_encode (p : Project) :
    decode p.encode = (Stage.decode p.stage.encode).map fun stage => { p with stage } := by
  rw [decode, encode, Fields.decode_record fields _ distinct_fields rfl]
  simp only [fields, Fields.defaulted, List.map_cons, List.map_nil, Fields.readItems, FlowBook.decode_encode]
  rcases Stage.decode p.stage.encode with e | stage <;> rfl

theorem written_encode (p : Project) : Written p.encode := by
  refine .record ?_
  simp only [List.forall_mem_cons]
  exact ⟨p.stage.written_encode, p.book.written_encode, by simp⟩

/-- A document is opened when it can be decoded and what it says has no defect. -/
theorem ofText_toText_eq_ok_iff (p q : Project) :
    ofText p.toText.toList = .ok q ↔ decode p.encode = .ok q ∧ q.validate = .ok () := by
  rw [ofText, toText, Json.parse_pretty decode p.written_encode]
  simp only [Except.bind_eq_ok_iff, Except.mapError_eq_ok_iff]
  constructor
  · rintro ⟨q', hdecode, ⟨⟩, hvalid, ⟨⟩⟩
    exact ⟨hdecode, hvalid⟩
  · rintro ⟨hdecode, hvalid⟩
    exact ⟨q, hdecode, (), hvalid, rfl⟩

theorem ofText_toText_of_decode_eq_error {p : Project} {f : Json.Fault} (h : decode p.encode = .error f) :
    ofText p.toText.toList = .error f.error := by
  rw [ofText, toText, Json.parse_pretty decode p.written_encode, h]
  rfl

/-- Other states leave a project as well-formed as it is. -/
theorem WellFormed.restate {p : Project} (h : p.WellFormed) (f : Actor → ActorState) :
    ({ stage := { actors := p.stage.actors.map fun a => { a with state := f a } }, book := p.book } :
      Project).WellFormed where
  stage := h.stage.of_ids_eq (by rw [List.map_map]; rfl)
  book := h.book

/-- A project whose states can be read back is read back with the states that are read. -/
theorem decode_encode_of_reread {p : Project} {f : Actor → ActorState}
    (h : ∀ a ∈ p.stage.actors, a.state.reread = .ok (f a)) : decode p.encode =
      .ok { stage := { actors := p.stage.actors.map fun a => { a with state := f a } }, book := p.book } := by
  have hactors : Json.decodeList Actor.decode (.list (p.stage.actors.map Actor.encode)) =
      .ok (p.stage.actors.map fun a => { a with state := f a }) := by
    refine Json.decodeList_map fun a ha => ?_
    rw [Actor.decode_encode, h a ha]
    rfl
  rw [decode_encode, Stage.decode_encode, hactors]
  rfl

/-- A project can be read back only if each of its states can. -/
theorem exists_reread_of_decode {p q : Project} (h : decode p.encode = .ok q) {a : Actor}
    (ha : a ∈ p.stage.actors) : ∃ state, a.state.reread = .ok state := by
  rw [decode_encode, Stage.decode_encode] at h
  rcases hactors : Json.decodeList Actor.decode (.list (p.stage.actors.map Actor.encode)) with e | actors
  · rw [hactors] at h
    cases h
  · obtain ⟨a', ha'⟩ := Json.exists_ok_of_decodeList hactors ha
    rw [Actor.decode_encode] at ha'
    rcases hstate : a.state.reread with e | state
    · rw [hstate] at ha'
      cases ha'
    · exact ⟨state, rfl⟩

end Project

/-! ### Samples -/

namespace Sample

/-- A state with doubles of every form: negative, with a power of ten, and minus zero. -/
def posed : ActorState :=
  { x := -12.75, y := 1e300, rotation := -0.0, size := 0.1
    message := some "say \"hi\"\n\t\\ \x01 \u00e9\u4e16"
    messageDuration := some 18446744073709551615
    visible := false }

/-- Two actors, one of them with every field set, on a stage that is locked; a flow with a block that has no
target. -/
def saved : Project :=
  { stage :=
      { actors :=
          [{ id := ⟨"a"⟩, name := "", costume := "dog", state := posed }, { id := ⟨"b/2"⟩, name := "B" }]
        locked := true
        revision := 41 }
    book :=
      { flows :=
          [{ id := ⟨"f"⟩, name := "F"
             blocks := [{ id := ⟨"1"⟩, action := "hop", target := none },
               { id := ⟨"2"⟩, action := "unknown", target := some ⟨"a"⟩ }] },
            { id := ⟨"g"⟩, name := "G", blocks := [] }]
        active := ⟨"g"⟩ } }

/-- The actor of a new project at a position that is no number, as any edit may put it there. -/
def lost : Project :=
  { stage := { actors := [{ id := ⟨"sprite-1"⟩, name := "Cat", state := { x := 0.0 / 0.0 } }] } }

end Sample

/-! ### Documents -/

namespace Project

/-- **A project is read back from its document**, but for the lock and the number of changes, which are not
written.  The only thing that is asked of it is that it has no defect and that its doubles are finite and
read back from their decimals. -/
theorem ofText_toText (p : Project) (hvalid : p.validate = .ok ())
    (hexact : ∀ a ∈ p.stage.actors, ∀ x ∈ a.state.doubles, Json.Exact x) :
    ofText p.toText.toList =
      .ok { stage := { actors := p.stage.actors, locked := false, revision := 0 }, book := p.book } := by
  have hsame : p.stage.actors.map (fun a => { a with state := a.state }) = p.stage.actors :=
    List.map_id _
  have hdecode := decode_encode_of_reread (f := Actor.state) fun a ha =>
    ActorState.reread_of_exact (hexact a ha)
  have hwell := ((validate_eq_ok_iff p).mp hvalid).restate Actor.state
  rw [hsame] at hdecode hwell
  exact (ofText_toText_eq_ok_iff p _).mpr ⟨hdecode, (validate_eq_ok_iff _).mpr hwell⟩

/-- The sample is read back unlocked and unchanged. -/
theorem ofText_toText_sample : Sample.saved.validate = .ok () ∧
    (∀ a ∈ Sample.saved.stage.actors, ∀ x ∈ a.state.doubles, Json.Exact x) ∧
    ofText Sample.saved.toText.toList =
      .ok { stage := { actors := Sample.saved.stage.actors, locked := false, revision := 0 }
            book := Sample.saved.book } := by
  have hvalid : Sample.saved.validate = .ok () := by decide +kernel
  have hexact : ∀ a ∈ Sample.saved.stage.actors, ∀ x ∈ a.state.doubles, Json.Exact x := by decide +kernel
  exact ⟨hvalid, hexact, ofText_toText Sample.saved hvalid hexact⟩

/-- **A document can be opened again exactly when all of its doubles are finite.**  What is asked of the
project is only that it has no defect; the doubles of its states are no part of that. -/
theorem exists_ofText_toText_iff (p : Project) (hvalid : p.validate = .ok ()) :
    (∃ q, ofText p.toText.toList = .ok q) ↔
      ∀ a ∈ p.stage.actors, ∀ x ∈ a.state.doubles, x.isFinite = true := by
  simp only [ofText_toText_eq_ok_iff, ← ActorState.exists_reread_iff]
  constructor
  · rintro ⟨q, hq, -⟩ a ha
    exact exists_reread_of_decode hq ha
  · intro h
    choose! f hf using h
    have hwell := ((validate_eq_ok_iff p).mp hvalid).restate f
    exact ⟨_, decode_encode_of_reread hf, (validate_eq_ok_iff _).mpr hwell⟩

/-- The document of the sample can be opened again. -/
theorem exists_ofText_toText_iff_sample : Sample.saved.validate = .ok () ∧
    (∀ a ∈ Sample.saved.stage.actors, ∀ x ∈ a.state.doubles, x.isFinite = true) ∧
    ∃ q, ofText Sample.saved.toText.toList = .ok q := by
  have hvalid : Sample.saved.validate = .ok () := by decide +kernel
  have hfinite : ∀ a ∈ Sample.saved.stage.actors, ∀ x ∈ a.state.doubles, x.isFinite = true := by
    decide +kernel
  exact ⟨hvalid, hfinite, (exists_ofText_toText_iff Sample.saved hvalid).mpr hfinite⟩

/-- A project without a defect whose document is malformed: the position is written as `null`. -/
theorem ofText_toText_lost : Sample.lost.validate = .ok () ∧
    ofText Sample.lost.toText.toList = .error Json.Fault.malformed.error :=
  ⟨by decide +kernel, ofText_toText_of_decode_eq_error (by decide +kernel)⟩

end Project

end Marionette
