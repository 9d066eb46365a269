import Mathlib
import RemoteSigner.Signer.Shapes
import RemoteSigner.Proofs.Text.Hex
import RemoteSigner.Proofs.Wire.Agreement
import RemoteSigner.Proofs.Wire.Grammar

/-!
# Raw data of posts

An entry is accepted exactly if it spells bytes in hexadecimal (`Text.SpellsBytes`); the reader that gives
the bytes later is another one, with rules of its own. The two fit together: raw data can be had at every
index that points at a post, and nothing but the index can be wrong
(`TransactionDataResponse.raw_faithful`).
-/

namespace RemoteSigner

/-- The text spells bytes in hexadecimal, in some mix of letter case. -/
def Text.SpellsBytes (t : Text) : Prop := ∃ s bytes, t = .whole s ∧ Hex.Spells s.toList bytes

/-! ## Hexadecimal text -/

theorem Text.spellsBytes_whole {s : String} :
    (Text.whole s).SpellsBytes ↔ ∃ bytes, Hex.Spells s.toList bytes :=
  ⟨fun ⟨_, bytes, hs, h⟩ => ⟨bytes, Text.whole.inj hs ▸ h⟩, fun ⟨bytes, h⟩ => ⟨s, bytes, rfl, h⟩⟩

theorem Text.spellsBytes_iff {t : Text} : t.SpellsBytes ↔ ∃ h : HexText, .whole h.text = t := by
  constructor
  · rintro ⟨s, bytes, rfl, hs⟩
    exact ⟨⟨s, (Hex.isPairs_iff _).mpr ⟨bytes, hs⟩⟩, rfl⟩
  · rintro ⟨h, rfl⟩
    obtain ⟨bytes, hs⟩ := (Hex.isPairs_iff _).mp h.isPairs
    exact ⟨h.text, bytes, rfl, hs⟩

theorem Shape.check_hex_text [Readers] {t : Text} {h : HexText} :
    Shape.hex.check (Datum.text t) = .ok h ↔ .whole h.text = t := by
  rw [Shape.check, Verdict.ofMisfit_eq_ok]
  show (t.unragged >>= checkHex) = .ok h ↔ _
  match t with
  | .ragged codes => exact ⟨(nomatch ·), (nomatch ·)⟩
  | .whole s =>
    show checkHex s = .ok h ↔ _
    rw [checkHex_eq_ok, Text.whole.injEq, eq_comm (a := h.text)]
    refine and_iff_right_of_imp ?_
    rintro rfl
    exact h.isPairs

theorem Shape.exists_check_hex [Readers] {t : Text} :
    (∃ h, Shape.hex.check (Datum.text t) = .ok h) ↔ t.SpellsBytes := by
  simp only [check_hex_text, Text.spellsBytes_iff]

/-- A record is accepted if its keys are text that its fields use, and its fields are accepted. -/
theorem Shape.check_record_iff {σ ρ τ : Type} [Source σ] {form : Form ρ τ} {fields : Fields τ} {v : σ}
    {entries : List (Text × σ)} (hv : Source.entries form.title v = .ok entries) {r : ρ} :
    (Shape.record form fields).check v = .ok r ↔ (∀ e ∈ entries, e.1.IsWhole) ∧
      (∀ e ∈ entries, e.1 ∈ fields.spellings entries) ∧ fields.check entries = .ok (form.parts r) := by
  rw [Shape.check, hv]
  show form.conclude _ = .ok r ↔ _
  rw [Form.conclude_eq_ok, judgeEntries_eq_ok]

namespace TransactionDataResponse

/-! ## Entries -/

/-- An entry in memory. -/
def entryDatum (t : Option Text) : Datum := t.elim .null .text

/-- An entry as JSON. -/
def entryJson (s : Option String) : Json := s.elim .null .str

/-- A response in memory that has these entries, be they hexadecimal or not. -/
def datumOf (ts : List (Option Text)) : Datum := .map [(.whole "data", .list (ts.map entryDatum))]

/-- A response as JSON that has these entries, likewise. -/
def jsonOf (ss : List (Option String)) : Json := .object [("data", .list (ss.map entryJson))]

/-- The entries as text. -/
def texts (r : TransactionDataResponse) : List (Option Text) :=
  r.data.map (Option.map fun h => .whole h.text)

variable {ts : List (Option Text)} {r : TransactionDataResponse}

theorem check_entry [Readers] {t : Option Text} {o : Option HexText} :
    (Shape.nullable .hex).check (entryDatum t) = .ok o ↔ t = o.map fun h => .whole h.text := by
  rw [Shape.check]
  match t with
  | none =>
    show Except.ok none = .ok o ↔ _
    rw [Except.ok.injEq, eq_comm, eq_comm (a := none), Option.map_eq_none_iff]
  | some t =>
    show some <$> Shape.hex.check (Datum.text t) = .ok o ↔ _
    rw [map_eq_ok, eq_comm (a := some t), Option.map_eq_some_iff]
    simp only [Shape.check_hex_text]
    exact ⟨fun ⟨h, ht, ho⟩ => ⟨h, ho.symm, ht⟩, fun ⟨h, ho, ht⟩ => ⟨h, ht, ho.symm⟩⟩

/-- Only the response that has the very entries is accepted. -/
theorem accept_datumOf [Readers] : shape.accept (datumOf ts) = .ok r ↔ r.texts = ts := by
  have hitems : (Shape.list (.nullable .hex)).check (Datum.list (ts.map entryDatum)) = .ok r.data ↔
      r.texts = ts := by
    show Verdict.each 0 ((ts.map entryDatum).map (Shape.nullable .hex).check) = _ ↔ _
    rw [Verdict.each_eq_ok, List.forall₂_map_left_iff, List.forall₂_map_left_iff, texts]
    simp only [check_entry]
    have hmap := List.forall₂_map_right_iff (R := Eq) (l := ts) (u := r.data)
      (f := Option.map fun h => Text.whole h.text)
    rw [List.forall₂_eq_eq_eq] at hmap
    exact hmap.symm.trans eq_comm
  rw [Shape.accept_eq_ok, shape, datumOf, Shape.check_record_iff rfl, ← hitems]
  show _ ∧ _ ∧ Verdict.both (Verdict.under _ _) (.ok ()) = .ok (r.data, ()) ↔ _
  rw [Verdict.both_eq_ok, Verdict.under_eq_ok]
  refine ⟨fun h => h.2.2.1, fun h => ⟨?_, ?_, h, rfl⟩⟩
  · exact List.forall_mem_singleton.mpr rfl
  · exact List.forall_mem_singleton.mpr (List.mem_singleton_self _)

theorem ofRead_jsonOf (ss : List (Option String)) :
    Datum.ofRead (jsonOf ss) = datumOf (ss.map (Option.map .whole)) := by
  have hentry : ∀ s, Datum.ofRead (entryJson s) = entryDatum (s.map .whole) := by
    rintro (_ | s) <;> rfl
  have hitems : Datum.itemsOfJson (Json.joinedItems (ss.map entryJson)) =
      (ss.map (Option.map .whole)).map entryDatum := by
    rw [Datum.itemsOfJson_eq_map, Json.joinedItems_eq_map, List.map_map, List.map_map, List.map_map]
    exact List.map_congr_left fun s _ => hentry s
  exact congrArg (fun items => Datum.map [(.whole "data", .list items)]) hitems

theorem accept_jsonOf [Readers] {ss : List (Option String)} :
    shape.accept (jsonOf ss) = .ok r ↔ r.texts = ss.map (Option.map .whole) := by
  rw [← accept_datumOf, Shape.accept_eq_ok, Shape.accept_eq_ok, ← shape.check_ofRead_eq_ok, ofRead_jsonOf]

/-- Entries are those of a response if all that are text spell bytes. -/
theorem exists_texts_eq : (∃ r : TransactionDataResponse, r.texts = ts) ↔
    ∀ t, some t ∈ ts → t.SpellsBytes := by
  have hrange : (∃ data : List (Option HexText), data.map (Option.map fun h => Text.whole h.text) = ts) ↔
      ∀ o ∈ ts, ∃ h : Option HexText, h.map (fun h => Text.whole h.text) = o :=
    Set.ext_iff.mp (Set.range_list_map _) ts
  have hdata : (∃ r : TransactionDataResponse, r.texts = ts) ↔
      ∃ data : List (Option HexText), data.map (Option.map fun h => Text.whole h.text) = ts :=
    ⟨fun ⟨r, h⟩ => ⟨r.data, h⟩, fun ⟨data, h⟩ => ⟨⟨data⟩, h⟩⟩
  rw [hdata, hrange]
  constructor
  · intro h t ht
    obtain ⟨o, ho⟩ := h _ ht
    obtain ⟨h, -, hs⟩ := Option.map_eq_some_iff.mp ho
    exact Text.spellsBytes_iff.mpr ⟨h, hs⟩
  · rintro h (_ | t) ho
    · exact ⟨none, rfl⟩
    · obtain ⟨h, hs⟩ := Text.spellsBytes_iff.mp (h t ho)
      exact ⟨some h, congrArg some hs⟩

/-! ## Raw data at an index -/

/-- A position can be given from either end. -/
theorem position?_eq_some {n p : Nat} {i : Int} :
    position? n i = some p ↔ p < n ∧ (i = p ∨ i = p - (n : Int)) := by
  unfold position?
  split_ifs with hfront hback
  · rw [Option.some.injEq]
    omega
  · rw [Option.some.injEq]
    omega
  · constructor
    · intro h
      cases h
    · rintro ⟨hp, hi⟩
      omega

theorem position?_eq_none {n : Nat} {i : Int} :
    position? n i = none ↔ ¬ (-(n : Int) ≤ i ∧ i < n) := by
  unfold position?
  split_ifs with hfront hback
  · simp only [false_iff]
    omega
  · simp only [false_iff]
    omega
  · simp only [true_iff]
    omega

variable {i : Int}

theorem raw_of_missing (h : ¬ (-(r.data.length : Int) ≤ i ∧ i < r.data.length)) :
    r.raw i = .error (.missingPost i) := by
  unfold raw
  rw [position?_eq_none.mpr h]
  rfl

section

variable {p : Nat} (hi : i = p ∨ i = p - (r.data.length : Int))

include hi

theorem entry_at {entry : Option HexText} (hp : r.data[p]? = some entry) :
    ((position? r.data.length i).bind fun p => r.data[p]?) = some entry := by
  have hlt : p < r.data.length := (List.getElem?_eq_some_iff.mp hp).1
  rw [position?_eq_some.mpr ⟨hlt, hi⟩]
  exact hp

theorem raw_of_none (hp : r.data[p]? = some none) : r.raw i = .ok none := by
  unfold raw
  rw [entry_at hi hp]

theorem exists_raw_of_text {h : HexText} (hp : r.data[p]? = some (some h)) :
    ∃ bytes, r.raw i = .ok (some bytes) ∧ h.text.length = 2 * bytes.length ∧
      Hex.encode bytes = h.text.toLower := by
  obtain ⟨bytes, hbytes, hspells⟩ := h.exists_bytes
  refine ⟨bytes, ?_, ?_, ?_⟩
  · unfold raw
    rw [entry_at hi hp]
    simp only [hbytes]
  · rw [← String.length_toList, hspells.length_eq]
  · apply String.toList_inj.mp
    rw [← hspells.map_toLower, String.toLower, String.toList_map]

end

theorem exists_entry (h : -(r.data.length : Int) ≤ i ∧ i < r.data.length) :
    ∃ (p : Nat) (entry : Option HexText), r.data[p]? = some entry ∧
      (i = p ∨ i = p - (r.data.length : Int)) := by
  obtain ⟨p, hp⟩ : ∃ p, position? r.data.length i = some p :=
    Option.ne_none_iff_exists'.mp fun hnone => position?_eq_none.mp hnone h
  obtain ⟨hlt, hi⟩ := position?_eq_some.mp hp
  exact ⟨p, r.data[p], List.getElem?_eq_getElem hlt, hi⟩

/-- An index out of range is the one fault. -/
theorem raw_eq_error {f : RawFault} :
    r.raw i = .error f ↔ ¬ (-(r.data.length : Int) ≤ i ∧ i < r.data.length) ∧ f = .missingPost i := by
  constructor
  · intro hf
    have hout : ¬ (-(r.data.length : Int) ≤ i ∧ i < r.data.length) := by
      intro hin
      obtain ⟨p, _ | h, hp, hi⟩ := exists_entry hin
      · cases (raw_of_none hi hp).symm.trans hf
      · obtain ⟨bytes, hraw, -⟩ := exists_raw_of_text hi hp
        cases hraw.symm.trans hf
    exact ⟨hout, Except.error.inj (hf.symm.trans (raw_of_missing hout))⟩
  · rintro ⟨hout, rfl⟩
    exact raw_of_missing hout

end TransactionDataResponse

/-! ## Posts with raw data -/

namespace PostWithData

/-- A post with raw data in memory. -/
def datumOf (post : Datum) (data : Text) : Datum :=
  .map [(.whole "post", post), (.whole "transaction_data", .text data)]

/-- A post with raw data as JSON. -/
def jsonOf (post : Json) (data : String) : Json :=
  .object [("post", post), ("transaction_data", .str data)]

theorem exists_accept_datumOf [Readers] {post : Datum} (hpost : ∃ p, TransferPost.shape.accept post = .ok p)
    {t : Text} : (∃ p, shape.accept (datumOf post t) = .ok p) ↔ t.SpellsBytes := by
  obtain ⟨p, hp⟩ := hpost
  simp only [Shape.accept_eq_ok] at hp ⊢
  rw [← Shape.exists_check_hex]
  have hrecord : ∀ r : PostWithData, shape.check (datumOf post t) = .ok r ↔
      TransferPost.shape.check post = .ok r.post ∧
        Shape.hex.check (Datum.text t) = .ok r.transactionData := by
    intro r
    rw [shape, datumOf, Shape.check_record_iff rfl]
    show _ ∧ _ ∧ Verdict.both (Verdict.under _ _) (Verdict.both (Verdict.under _ _) (.ok ())) =
      .ok (r.post, r.transactionData, ()) ↔ _
    rw [Verdict.both_eq_ok, Verdict.both_eq_ok, Verdict.under_eq_ok, Verdict.under_eq_ok]
    refine ⟨fun h => ⟨h.2.2.1, h.2.2.2.1⟩, fun h => ⟨?_, ?_, h.1, h.2, rfl⟩⟩
    · exact List.forall_mem_cons.mpr ⟨rfl, List.forall_mem_singleton.mpr rfl⟩
    · exact List.forall_mem_cons.mpr ⟨List.mem_cons_self,
        List.forall_mem_singleton.mpr (List.mem_cons_of_mem _ List.mem_cons_self)⟩
  simp only [hrecord]
  constructor
  · rintro ⟨r, -, h⟩
    exact ⟨_, h⟩
  · rintro ⟨h, hh⟩
    exact ⟨⟨p, h⟩, hp, hh⟩

theorem exists_accept_jsonOf [Readers] {post : Json} (hpost : ∃ p, TransferPost.shape.accept post = .ok p)
    {s : String} : (∃ p, shape.accept (jsonOf post s) = .ok p) ↔ (Text.whole s).SpellsBytes := by
  have hofRead : Datum.ofRead (jsonOf post s) = datumOf (.ofRead post) (.whole s) := rfl
  simp only [Shape.accept_eq_ok, ← Shape.check_ofRead_eq_ok] at hpost ⊢
  simp only [hofRead, ← Shape.accept_eq_ok] at hpost ⊢
  exact exists_accept_datumOf hpost

end PostWithData

namespace TransactionDataResponse

/-- Raw data can be given exactly for the indices that point at a post, counted from either end; otherwise
the fault is that there is no such post. What is given for an entry is nothing if the entry is null, and
else the bytes of which the entry is the hexadecimal form, up to letter case. Text is accepted as an entry,
and as the raw data of a post, exactly if it is the hexadecimal form of some bytes in some mix of letter
case, whether it is in memory or in JSON; the entries are then that text. -/
theorem raw_faithful [Readers] :
    (∀ (r : TransactionDataResponse) (i : Int),
      ((∃ f, r.raw i = .error f) ↔ ¬ (-(r.data.length : Int) ≤ i ∧ i < r.data.length)) ∧
      (∀ f, r.raw i = .error f → f = .missingPost i) ∧
      ∀ (p : Nat) (entry : Option HexText), r.data[p]? = some entry →
        (i = p ∨ i = p - (r.data.length : Int)) →
        (r.raw i = .ok none ↔ entry = none) ∧
        ∀ h, entry = some h → ∃ bytes, r.raw i = .ok (some bytes) ∧
          h.text.length = 2 * bytes.length ∧ Hex.encode bytes = h.text.toLower) ∧
    (∀ ts, ((∃ r, shape.accept (datumOf ts) = .ok r) ↔ ∀ t, some t ∈ ts → t.SpellsBytes) ∧
      ∀ r, shape.accept (datumOf ts) = .ok r → r.texts = ts) ∧
    (∀ ss, ((∃ r, shape.accept (jsonOf ss) = .ok r) ↔
        ∀ s, some s ∈ ss → (Text.whole s).SpellsBytes) ∧
      ∀ r, shape.accept (jsonOf ss) = .ok r → r.texts = ss.map (Option.map .whole)) ∧
    (∀ post t, (∃ p, TransferPost.shape.accept post = .ok p) →
      ((∃ p, PostWithData.shape.accept (PostWithData.datumOf post t) = .ok p) ↔ t.SpellsBytes)) ∧
    (∀ post s, (∃ p, TransferPost.shape.accept post = .ok p) →
      ((∃ p, PostWithData.shape.accept (PostWithData.jsonOf post s) = .ok p) ↔
        (Text.whole s).SpellsBytes)) := by
  refine ⟨?_, ?_, ?_, ?_, ?_⟩
  · intro r i
    simp only [raw_eq_error]
    refine ⟨⟨fun ⟨_, hout, _⟩ => hout, fun hout => ⟨_, hout, rfl⟩⟩, fun _ h => h.2, ?_⟩
    rintro p (_ | h) hp hi
    · exact ⟨iff_of_true (raw_of_none hi hp) rfl, nofun⟩
    · obtain ⟨bytes, hraw, hlength, hencode⟩ := exists_raw_of_text hi hp
      refine ⟨iff_of_false ?_ (Option.some_ne_none h), ?_⟩
      · rw [hraw]
        nofun
      · rintro _ ⟨⟩
        exact ⟨bytes, hraw, hlength, hencode⟩
  · intro ts
    simp only [accept_datumOf, exists_texts_eq, imp_self, implies_true, and_self]
  · intro ss
    have hwhole : (∀ t, some t ∈ ss.map (Option.map Text.whole) → t.SpellsBytes) ↔
        ∀ s, some s ∈ ss → (Text.whole s).SpellsBytes := by
      simp only [List.mem_map, Option.map_eq_some_iff]
      exact ⟨fun h s hs => h _ ⟨_, hs, s, rfl, rfl⟩, fun h t ⟨_, hs, s, ho, ht⟩ => ht ▸ h s (ho ▸ hs)⟩
    simp only [accept_jsonOf, exists_texts_eq, hwhole, imp_self, implies_true, and_self]
  · exact fun post t hpost => PostWithData.exists_accept_datumOf hpost
  · exact fun post s hpost => PostWithData.exists_accept_jsonOf hpost

/-- Two bytes in mixed letter case can be had from the end, a null entry from the front, and nothing beyond
the last one; a prefix or a blank is no part of hexadecimal text. -/
theorem raw_faithful_mixed_case :
    let r : TransactionDataResponse := ⟨[some ⟨"0aFF", by decide⟩, none]⟩
    let post : Datum := .map [(.whole "proof", .text (.whole ""))]
    (∃ bytes, r.raw (-2) = .ok (some bytes) ∧ 4 = 2 * bytes.length ∧ Hex.encode bytes = "0aff") ∧
      r.raw 1 = .ok none ∧ r.raw 2 = .error (.missingPost 2) ∧
      (¬ ∃ r, shape.accept (datumOf [some (.whole "0x")]) = .ok r) ∧
      (∃ p, PostWithData.shape.accept (PostWithData.datumOf post (.whole "0aFF")) = .ok p) ∧
      ¬ ∃ p, PostWithData.shape.accept (PostWithData.datumOf post (.whole "0a ff")) = .ok p := by
  intro r post
  have hpost : ∃ p, TransferPost.shape.accept post = .ok p := ⟨⟨none, [], [], [], [], .whole ""⟩, rfl⟩
  have hspells : ∀ s, (Text.whole s).SpellsBytes ↔ Hex.isPairs s.toList = true := fun s => by
    rw [Text.spellsBytes_whole, Hex.isPairs_iff]
  obtain ⟨hraw, hdatum, -, haccept, -⟩ := raw_faithful
  refine ⟨?_, ?_, ?_, ?_, ?_, ?_⟩
  · obtain ⟨bytes, hbytes, hlength, hencode⟩ := ((hraw r (-2)).2.2 0 _ rfl (.inr rfl)).2 _ rfl
    refine ⟨bytes, hbytes, hlength, hencode.trans ?_⟩
    apply String.toList_inj.mp
    rw [String.toLower, String.toList_map]
    decide
  · exact ((hraw r 1).2.2 1 none rfl (.inl rfl)).1.mpr rfl
  · obtain ⟨f, hf⟩ := (hraw r 2).1.mpr (by decide)
    rw [hf, (hraw r 2).2.1 f hf]
  · rw [(hdatum _).1]
    exact fun h => absurd ((hspells _).mp (h _ List.mem_cons_self)) (by decide)
  · rw [haccept post _ hpost, hspells]
    decide
  · rw [haccept post _ hpost, hspells]
    decide

end TransactionDataResponse

end RemoteSigner
