import Marionette.Json.Reader
import Marionette.Json.Writer
import Marionette.Proofs.Decimal.Numeral
import Mathlib.Tactic.IntervalCases

/-!
# What is written is read back

A value that is written on many lines is read back as it is, to its last digit and character.  The reader
keeps what is open in a list and the writer goes down the value, so the statement is about a value in the
middle of a text: in a state where a value may come, reading its text leads to the state in which the value
has been given to what is open, with the rest of the text ahead.

## Main definitions

* `Json.Written` — the values whose text says all of them: complete, with well-formed numerals.
* `Json.pieceOf` — what a character that is written is read as.
* `Json.State.Takes` — a value may come, inside what is open.

## Main results

* `Json.contentOf_escape`, `Json.next_quote` — strings are read back, whatever their characters.
* `Json.Written.readFrom_prettyAt` — a value in the middle of a text.
* `Json.read_pretty` — a whole text.
-/

namespace Marionette

namespace Json

/-! ### Values that are written -/

/-- A value whose text says all of it. -/
inductive Written : Json → Prop
  | null : Written null
  | bool (b : Bool) : Written (bool b)
  | number {n : Numeral} (h : n.WellFormed) : Written (number n)
  | text (s : String) : Written (text s)
  | list {items : List Json} (h : ∀ v ∈ items, Written v) : Written (list items)
  | record {members : List (String × Json)} (h : ∀ m ∈ members, Written m.2) : Written (record members)

theorem Written.nat (n : Nat) : Written (nat n) := .number (Numeral.wellFormed_ofNat n)

theorem Written.float (x : Float) : Written (float x) := by
  rw [Json.float]
  split
  · exact .number (Numeral.wellFormed_ofFloat x)
  · exact .null

theorem Written.optional {α : Type} {f : α → Json} (h : ∀ a, Written (f a)) (a? : Option α) :
    Written (optional f a?) := by
  cases a? with
  | none => exact .null
  | some a => exact h a

theorem Written.map {α : Type} {f : α → Json} (h : ∀ a, Written (f a)) (as : List α) :
    Written (Json.list (as.map f)) :=
  .list fun _ hv => by
    obtain ⟨a, -, rfl⟩ := List.mem_map.mp hv
    exact h a

/-! ### Strings -/

/-- Whether a character is written by its number. -/
def isNumbered (c : Char) : Bool :=
  c.toNat < 32 && c != '\x08' && c != '\x0c' && c != '\n' && c != '\r' && c != '\t'

/-- What a character that is written in a string is read as. -/
def pieceOf (c : Char) : Piece := if isNumbered c then .unit c.toNat else .char c

theorem hexQuad?_hexChar : ∀ n < 32,
    hexQuad? '0' '0' (hexChar (n / 16)) (hexChar (n % 16)) = some n := by
  decide

/-- A character is read as it was written, and what follows it is still to be read. -/
theorem scanString_escape (done : List Piece) (c : Char) (cs : List Char) :
    scanString done (escape c ++ cs) = scanString (pieceOf c :: done) cs := by
  rw [escape]
  split_ifs with hquote hslash hb hf hn hr ht hlow
  · subst hquote
    rfl
  · subst hslash
    rfl
  · subst hb
    rfl
  · subst hf
    rfl
  · subst hn
    rfl
  · subst hr
    rfl
  · subst ht
    rfl
  · have hpiece : pieceOf c = .unit c.toNat := by simp [pieceOf, isNumbered, *]
    simp only [List.cons_append, List.nil_append, scanString, hexQuad?_hexChar _ hlow, hpiece]
  · have hpiece : pieceOf c = .char c := by simp [pieceOf, isNumbered, hlow]
    rw [hpiece, List.singleton_append, scanString.eq_def]
    split
    · next heq => exact absurd (List.cons.inj heq).1 hquote
    · next heq => exact absurd (List.cons.inj heq).1 hslash
    · next heq => exact absurd (List.cons.inj heq).1 hslash
    · next heq =>
      obtain ⟨rfl, rfl⟩ := List.cons.inj heq
      rw [if_neg hlow]
    · next heq => cases heq

theorem scanString_flatMap (done : List Piece) (cs rest : List Char) :
    scanString done (cs.flatMap escape ++ '"' :: rest) = some (done.reverse ++ cs.map pieceOf, rest) := by
  induction cs generalizing done with
  | nil => simp [scanString]
  | cons c cs ih =>
    rw [List.flatMap_cons, List.append_assoc, scanString_escape, ih]
    simp

theorem joinPieces_pieceOf (done : List Char) (c : Char) (ps : List Piece) :
    joinPieces done (pieceOf c :: ps) = joinPieces (c :: done) ps := by
  rw [pieceOf]
  split
  · next hnumbered =>
    have hlow : c.toNat < 32 := by simp_all [isNumbered]
    rw [joinPieces.eq_def]
    dsimp only
    rw [if_neg (by omega), if_neg (by omega), Char.ofNat_toNat]
  · rfl

/-- The pieces of a string that is written say the string. -/
theorem contentOf_escape (cs : List Char) : contentOf (cs.map pieceOf) = some (String.ofList cs) := by
  have hjoin : ∀ done, joinPieces done (cs.map pieceOf) = some (done.reverse ++ cs) := by
    induction cs with
    | nil => simp [joinPieces]
    | cons c cs ih =>
      intro done
      rw [List.map_cons, joinPieces_pieceOf, ih]
      simp
  simp [contentOf, hjoin]

/-! ### Tokens -/

theorem next_of_first {c : Char} {cs : List Char} (h : isBlank c = false) :
    Token.next (c :: cs) = Token.first (c :: cs) := by
  rw [Token.next, List.dropWhile_cons, h]
  rfl

/-- A new line and its indentation are passed over. -/
theorem next_newLine (level : Nat) (cs : List Char) : Token.next (newLine level ++ cs) = Token.next cs := by
  have hblank : ∀ c ∈ newLine level, isBlank c = true := by
    intro c hc
    rcases List.mem_cons.mp hc with rfl | hc
    · rfl
    · rw [(List.mem_replicate.mp hc).2]
      rfl
  rw [Token.next, List.dropWhile_append_of_pos hblank]
  rfl

theorem next_blank (cs : List Char) : Token.next (' ' :: cs) = Token.next cs := rfl

/-- **A string is read as it was written**, whatever its characters. -/
theorem next_quote (s : String) (rest : List Char) :
    Token.next (quote s ++ rest) = .token (.string (some s)) rest := by
  have hscan := scanString_flatMap [] s.toList rest
  rw [quote, List.cons_append, List.append_assoc, List.singleton_append]
  rw [next_of_first rfl, Token.first, hscan, List.reverse_nil, List.nil_append]
  simp only [contentOf_escape, String.ofList_toList]

theorem isBlank_toChar (d : Digit) : isBlank d.toChar = false := by
  revert d
  decide

theorem first_of_scan {c : Char} {cs : List Char} (hc : c = '-' ∨ ∃ d : Digit, c = d.toChar) :
    Token.first (c :: cs) =
      match Numeral.scan (c :: cs) with
      | some (n, rest) => .token (.number n) rest
      | none => .fault := by
  rcases hc with rfl | ⟨d, rfl⟩
  · rfl
  · obtain ⟨n, hn⟩ := d
    interval_cases n <;> rfl

/-- A numeral is read as it was written. -/
theorem next_text {n : Numeral} (h : n.WellFormed) {rest : List Char} (hrest : Numeral.stops rest = true) :
    Token.next (n.text ++ rest) = .token (.number n) rest := by
  have hscan := Numeral.scan_text_append h hrest
  obtain ⟨c, cs, hcs, hc⟩ : ∃ c cs, n.text ++ rest = c :: cs ∧ (c = '-' ∨ ∃ d : Digit, c = d.toChar) := by
    obtain ⟨d, ds, hds⟩ := List.exists_cons_of_ne_nil h.ne_nil
    rw [Numeral.text_eq, Numeral.unsignedText, hds]
    cases n.negative with
    | true => exact ⟨_, _, rfl, .inl rfl⟩
    | false => exact ⟨_, _, rfl, .inr ⟨d, rfl⟩⟩
  have hblank : isBlank c = false := by
    rcases hc with rfl | ⟨d, rfl⟩
    · rfl
    · exact isBlank_toChar d
  rw [hcs] at hscan ⊢
  rw [next_of_first hblank, first_of_scan hc, hscan]

/-! ### Reading token by token -/

theorem readFrom_token {s s' : State} {cs rest : List Char} {t : Token} (hnext : Token.next cs = .token t rest)
    (hstep : s.step t = some s') : readFrom s cs = readFrom s' rest := by
  rw [readFrom]
  split
  · next heq => rw [hnext] at heq; cases heq
  · next heq => rw [hnext] at heq; cases heq
  · next heq =>
    rw [hnext] at heq
    cases heq
    rw [hstep]

/-- The state depends on the rest of the text only through its next token. -/
theorem readFrom_congr (s : State) {cs cs' : List Char} (h : Token.next cs = Token.next cs') :
    readFrom s cs = readFrom s cs' := by
  rw [readFrom, readFrom, h]

theorem readFrom_newLine (s : State) (level : Nat) (cs : List Char) :
    readFrom s (newLine level ++ cs) = readFrom s cs :=
  readFrom_congr s (next_newLine level cs)

namespace State

/-- A value may come, inside the containers of `stack`. -/
def Takes (s : State) (stack : List Frame) : Prop := ∀ t, t ≠ .closeArray → s.step t = begin stack t

theorem takes_value (stack : List Frame) : (value stack).Takes stack := fun _ _ => rfl

theorem takes_firstItem (stack : List Frame) : (firstItem stack).Takes (.array [] :: stack) := by
  intro t ht
  cases t with
  | closeArray => exact absurd rfl ht
  | _ => rfl

end State

variable {s : State} {stack : List Frame}

/-- A value of one token is given to what is open. -/
theorem readFrom_scalar (h : s.Takes stack) {v : Json} {t : Token} (ht : t ≠ .closeArray)
    (hbegin : State.begin stack t = some (State.give v stack)) {cs rest : List Char}
    (hnext : Token.next cs = .token t rest) : readFrom s cs = readFrom (State.give v stack) rest :=
  readFrom_token hnext ((h t ht).trans hbegin)

/-! ### Containers -/

theorem prettyItems_cons_cons (level : Nat) (v w : Json) (ws : List Json) :
    prettyItems level (v :: w :: ws) =
      newLine level ++ (prettyAt level v ++ ',' :: prettyItems level (w :: ws)) := rfl

theorem prettyMembers_cons_cons (level : Nat) (k : Option String) (v : Json) (m : Option String × Json)
    (ms : List (Option String × Json)) :
    prettyMembers level ((k, v) :: m :: ms) =
      newLine level ++
        (quote (k.getD "") ++ ':' :: ' ' :: (prettyAt level v ++ ',' :: prettyMembers level (m :: ms))) := rfl

theorem prettyAt_list_cons (level : Nat) (v : Json) (vs : List Json) :
    prettyAt level (list (v :: vs)) =
      '[' :: (prettyItems (level + 1) (v :: vs) ++ (newLine level ++ [']'])) := rfl

theorem prettyAt_record_cons (level : Nat) (m : String × Json) (ms : List (String × Json)) :
    prettyAt level (record (m :: ms)) =
      '{' :: (prettyMembers (level + 1) ((m :: ms).map fun m => (some m.1, m.2)) ++
        (newLine level ++ ['}'])) := rfl

/-- The value is read back wherever one may come, at every level. -/
def ReadsBack (v : Json) : Prop :=
  ∀ (level : Nat) (s : State) (stack : List Frame) (rest : List Char), s.Takes stack →
    Numeral.stops rest = true → readFrom s (prettyAt level v ++ rest) = readFrom (State.give v stack) rest

/-- The items of an array, the rest of which is still open. -/
theorem readFrom_prettyItems {items : List Json} (hne : items ≠ []) (h : ∀ v ∈ items, v.ReadsBack)
    (level : Nat) {done : List Json} (hs : s.Takes (.array done :: stack)) (rest : List Char) :
    readFrom s (prettyItems (level + 1) items ++ (newLine level ++ ']' :: rest)) =
      readFrom (State.give (.list (done.reverse ++ items)) stack) rest := by
  induction items generalizing s done with
  | nil => exact absurd rfl hne
  | cons v vs ih =>
    have hv := h v List.mem_cons_self
    cases vs with
    | nil =>
      rw [prettyItems, List.append_assoc, readFrom_newLine, hv (level + 1) s _ _ hs rfl]
      change readFrom (.afterItem stack (v :: done)) _ = _
      rw [readFrom_newLine, readFrom_token (next_of_first rfl) rfl, List.reverse_cons]
      rfl
    | cons w ws =>
      rw [prettyItems_cons_cons, List.append_assoc, readFrom_newLine, List.append_assoc, List.cons_append,
        hv (level + 1) s _ _ hs rfl]
      change readFrom (.afterItem stack (v :: done)) _ = _
      rw [readFrom_token (next_of_first rfl) rfl]
      rw [ih (List.cons_ne_nil w ws) (fun u hu => h u (List.mem_cons_of_mem v hu)) (State.takes_value _)]
      simp

/-- A key and its colon lead to where its value may come. -/
theorem readFrom_key (done : List (Option String × Json)) (mayClose : Bool) (k : String) (cs : List Char) :
    readFrom (.key stack done mayClose) (quote k ++ ':' :: ' ' :: cs) =
      readFrom (.value (.object done (some k) :: stack)) cs := by
  rw [readFrom_token (next_quote k _) rfl, readFrom_token (next_of_first rfl) rfl]
  exact readFrom_congr _ (next_blank cs)

/-- The members of an object, the rest of which is still open. -/
theorem readFrom_prettyMembers {members : List (String × Json)} (hne : members ≠ [])
    (h : ∀ m ∈ members, m.2.ReadsBack) (level : Nat) (done : List (Option String × Json)) (mayClose : Bool)
    (rest : List Char) :
    readFrom (.key stack done mayClose)
        (prettyMembers (level + 1) (members.map fun m => (some m.1, m.2)) ++ (newLine level ++ '}' :: rest)) =
      readFrom (State.give (.object (done.reverse ++ members.map fun m => (some m.1, m.2)) true) stack)
        rest := by
  induction members generalizing done mayClose with
  | nil => exact absurd rfl hne
  | cons m ms ih =>
    have hm := h m List.mem_cons_self
    cases ms with
    | nil =>
      rw [List.map_cons, List.map_nil, prettyMembers, List.append_assoc, readFrom_newLine, List.append_assoc]
      simp only [List.cons_append, Option.getD_some]
      rw [readFrom_key, hm (level + 1) _ _ _ (State.takes_value _) rfl]
      change readFrom (.afterMember stack ((some m.1, m.2) :: done)) _ = _
      rw [readFrom_newLine, readFrom_token (next_of_first rfl) rfl, List.reverse_cons]
    | cons m' ms =>
      rw [List.map_cons, List.map_cons, prettyMembers_cons_cons, List.append_assoc, readFrom_newLine]
      simp only [List.cons_append, List.append_assoc, Option.getD_some]
      rw [readFrom_key, hm (level + 1) _ _ _ (State.takes_value _) rfl]
      change readFrom (.afterMember stack ((some m.1, m.2) :: done)) (',' :: _) = _
      rw [readFrom_token (next_of_first rfl) rfl]
      have := ih (List.cons_ne_nil m' ms) (fun u hu => h u (List.mem_cons_of_mem m hu))
        ((some m.1, m.2) :: done) false
      rw [List.map_cons] at this
      rw [this]
      simp

theorem readsBack_list {items : List Json} (h : ∀ v ∈ items, v.ReadsBack) : (list items).ReadsBack := by
  intro level s stack rest hs _
  cases items with
  | nil =>
    change readFrom s ('[' :: ']' :: rest) = _
    rw [readFrom_token (next_of_first rfl) (hs .openArray (by simp)), readFrom_token (next_of_first rfl) rfl]
    rfl
  | cons v vs =>
    rw [prettyAt_list_cons, List.cons_append, List.append_assoc, List.append_assoc]
    rw [readFrom_token (next_of_first rfl) (hs .openArray (by simp))]
    exact readFrom_prettyItems (List.cons_ne_nil v vs) h level (State.takes_firstItem stack) rest

theorem readsBack_record {members : List (String × Json)} (h : ∀ m ∈ members, m.2.ReadsBack) :
    (record members).ReadsBack := by
  intro level s stack rest hs _
  cases members with
  | nil =>
    change readFrom s ('{' :: '}' :: rest) = _
    rw [readFrom_token (next_of_first rfl) (hs .openObject (by simp)), readFrom_token (next_of_first rfl) rfl]
    rfl
  | cons m ms =>
    rw [prettyAt_record_cons, List.cons_append, List.append_assoc, List.append_assoc]
    rw [readFrom_token (next_of_first rfl) (hs .openObject (by simp))]
    exact readFrom_prettyMembers (List.cons_ne_nil m ms) h level [] true rest

/-- **A value that is written is read back** in the middle of a text, whatever is open around it. -/
theorem Written.readsBack {v : Json} (h : Written v) : v.ReadsBack := by
  induction h with
  | null => exact fun _ s stack rest hs _ => readFrom_scalar (t := .null) hs (by simp) rfl rfl
  | bool b =>
    intro level s stack rest hs _
    cases b with
    | true => exact readFrom_scalar (t := .bool true) hs (by simp) rfl rfl
    | false => exact readFrom_scalar (t := .bool false) hs (by simp) rfl rfl
  | @number n hn =>
    intro _ s stack rest hs hrest
    exact readFrom_scalar (t := .number n) hs (by simp) rfl (next_text hn hrest)
  | text t =>
    intro _ s stack rest hs _
    exact readFrom_scalar (t := .string (some t)) hs (by simp) rfl (next_quote t rest)
  | list _ ih => exact readsBack_list ih
  | record _ ih => exact readsBack_record ih

/-- **The text of a value is read back as that value**, and nothing is left. -/
theorem read_pretty {v : Json} (h : Written v) : read v.pretty.toList = (v, true) := by
  have hread := h.readsBack 0 (.value []) [] [] (State.takes_value []) rfl
  rw [List.append_nil] at hread
  rw [pretty, String.toList_ofList, read, hread, readFrom]
  rfl

end Json

end Marionette
