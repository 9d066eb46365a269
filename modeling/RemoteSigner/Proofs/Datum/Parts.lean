import Mathlib
import RemoteSigner.Proofs.Datum.Written
import RemoteSigner.Proofs.Text.Utf8

/-!
# Values inside values

A value cannot be written because of some value inside it: something of which there is no text, or text with
a lone surrogate (`Datum.everywhere_isWritable_iff`). What is written otherwise is as deep as the value
(`Datum.depth_of_toJsonWithin`), and orderly if the value is regular (`Datum.everywhere_isOrderly`).
-/

namespace RemoteSigner.Datum

/-- The content of a message, as a value of its own. -/
def ofContent : Content → Datum
  | .text t => .text t
  | .binary b => .bytes b

/-- The first value stands inside the second one, at any depth, or it is the second one. -/
inductive Inside : Datum → Datum → Prop
  | self (d : Datum) : Inside d d
  | item {x d : Datum} {items : List Datum} (hd : d ∈ items) (h : Inside x d) : Inside x (.list items)
  | entry {x : Datum} {e : Text × Datum} {entries : List (Text × Datum)} (he : e ∈ entries)
      (h : Inside x e.2) : Inside x (.map entries)
  | field {x : Datum} {e : Text × Datum} {title : String} {entries : List (Text × Datum)}
      (he : e ∈ entries) (h : Inside x e.2) : Inside x (.record title entries)
  | content (m : Message) : Inside (ofContent m.content) (.message m)

theorem Inside.trans {x y d : Datum} (hx : x.Inside y) (hy : y.Inside d) : x.Inside d := by
  induction hy with
  | self => exact hx
  | item hd _ ih => exact .item hd (ih hx)
  | entry he _ ih => exact .entry he (ih hx)
  | field he _ ih => exact .field he (ih hx)
  | content m =>
    obtain ⟨kind, _ | _⟩ := m
    · cases hx
      exact .content _
    · cases hx
      exact .content _

section Everywhere

variable {p : Datum → Prop}

theorem everywhereItems_iff {items : List Datum} :
    EverywhereItems p items ↔ ∀ d ∈ items, Everywhere p d := by
  induction items with
  | nil => exact iff_of_true trivial (List.forall_mem_nil _)
  | cons d rest ih => rw [EverywhereItems, ih, List.forall_mem_cons]

theorem everywhereEntries_iff {entries : List (Text × Datum)} :
    EverywhereEntries p entries ↔ ∀ e ∈ entries, Everywhere p e.2 := by
  induction entries with
  | nil => exact iff_of_true trivial (List.forall_mem_nil _)
  | cons e rest ih => rw [EverywhereEntries, ih, List.forall_mem_cons]

theorem Everywhere.here {d : Datum} (h : d.Everywhere p) : p d := by
  cases d with
  | list | map | record => exact h.1
  | null | bool | int | float | text | bytes | message | unknown => exact h

theorem everywhere_ofContent (c : Content) : (ofContent c).Everywhere p ↔ p (ofContent c) := by
  cases c <;> exact Iff.rfl

mutual

theorem everywhere_of_inside (d : Datum) (h : ∀ x, x.Inside d → p x) : d.Everywhere p := by
  cases d with
  | list items =>
    exact ⟨h _ (.self _), everywhereItems_of_inside items fun d hd x hx => h x (.item hd hx)⟩
  | map entries =>
    exact ⟨h _ (.self _), everywhereEntries_of_inside entries fun e he x hx => h x (.entry he hx)⟩
  | record title entries =>
    exact ⟨h _ (.self _), everywhereEntries_of_inside entries fun e he x hx => h x (.field he hx)⟩
  | null | bool | int | float | text | bytes | message | unknown => exact h _ (.self _)

theorem everywhereItems_of_inside (items : List Datum) (h : ∀ d ∈ items, ∀ x, x.Inside d → p x) :
    EverywhereItems p items := by
  cases items with
  | nil => trivial
  | cons d rest =>
    obtain ⟨hd, hrest⟩ := List.forall_mem_cons.mp h
    exact ⟨everywhere_of_inside d hd, everywhereItems_of_inside rest hrest⟩

theorem everywhereEntries_of_inside (entries : List (Text × Datum))
    (h : ∀ e ∈ entries, ∀ x, x.Inside e.2 → p x) : EverywhereEntries p entries := by
  cases entries with
  | nil => trivial
  | cons e rest =>
    obtain ⟨he, hrest⟩ := List.forall_mem_cons.mp h
    exact ⟨everywhere_of_inside e.2 he, everywhereEntries_of_inside rest hrest⟩

end

variable (hcontent : ∀ m, p (.message m) → p (ofContent m.content))

include hcontent

theorem Everywhere.inside {x d : Datum} (hx : x.Inside d) (h : d.Everywhere p) : x.Everywhere p := by
  induction hx with
  | self => exact h
  | item hd _ ih => exact ih (everywhereItems_iff.mp h.2 _ hd)
  | entry he _ ih => exact ih (everywhereEntries_iff.mp h.2 _ he)
  | field he _ ih => exact ih (everywhereEntries_iff.mp h.2 _ he)
  | content m => exact (everywhere_ofContent _).mpr (hcontent m h)

theorem everywhere_iff_inside {d : Datum} : d.Everywhere p ↔ ∀ x, x.Inside d → p x :=
  ⟨fun h _ hx => (h.inside hcontent hx).here, d.everywhere_of_inside⟩

end Everywhere

/-! ## What stands in the way of being written -/

/-- Something of which there is no text: something of an unknown type, or bytes that are no UTF-8. -/
def HasNoText : Datum → Prop
  | .unknown => True
  | .bytes b => ∀ s, Utf8.encodeText s ≠ b
  | _ => False

theorem written_bytes_iff (b : Bytes) : (∃ s, b.written = .ok s) ↔ ∃ s, Utf8.encodeText s = b := by
  unfold Bytes.written
  constructor
  · rintro ⟨s, h⟩
    split at h
    · rename_i s' hs
      exact ⟨s', (Utf8.decodeText_eq_ok.mp hs).symm⟩
    · cases h
  · rintro ⟨s, rfl⟩
    rw [Utf8.decodeText_eq_ok.mpr rfl]
    exact ⟨s, rfl⟩

theorem isWritable_ofContent (m : Message) : IsWritable (.message m) ↔ IsWritable (ofContent m.content) := by
  obtain ⟨kind, _ | _⟩ := m
  · exact written_text_iff _
  · exact Iff.rfl

theorem ofContent_ne_message (c : Content) (m : Message) : ofContent c ≠ .message m := by
  cases c <;> exact nofun

/-- Two kinds of values are not written, and messages whose content is not. -/
theorem isWritable_iff {d : Datum} : d.IsWritable ↔
    (¬ d.HasNoText ∧ d.HasWholeText) ∧ ∀ m, d = .message m → IsWritable (ofContent m.content) := by
  cases d with
  | bytes b =>
    refine (written_bytes_iff b).trans ?_
    show _ ↔ (¬ (∀ s, Utf8.encodeText s ≠ b) ∧ True) ∧ _
    rw [not_forall_not, and_true, and_iff_left nofun]
  | unknown => exact iff_of_false id fun h => h.1.1 trivial
  | message m =>
    rw [isWritable_ofContent]
    exact ⟨fun h => ⟨⟨id, trivial⟩, fun _ hm => Datum.message.inj hm ▸ h⟩, fun h => h.2 m rfl⟩
  | null | bool | int | float | text | list | map | record =>
    exact ⟨fun h => ⟨⟨id, h⟩, nofun⟩, fun h => h.1.2⟩

/-- Everything in a value can be written unless there is something inside it of which there is no text, or
text with a lone surrogate. -/
theorem everywhere_isWritable_iff {d : Datum} :
    d.Everywhere IsWritable ↔ ∀ x : Datum, x.Inside d → ¬ x.HasNoText ∧ x.HasWholeText := by
  rw [everywhere_iff_inside fun m => (isWritable_ofContent m).mp]
  constructor
  · exact fun h x hx => (isWritable_iff.mp (h x hx)).1
  · intro h x hx
    refine isWritable_iff.mpr ⟨h x hx, ?_⟩
    rintro m rfl
    -- the content of a message is inside the value as well
    have hm := h _ (.trans (.content m) hx)
    exact isWritable_iff.mpr ⟨hm, fun m' hm' => absurd hm' (ofContent_ne_message _ m')⟩

/-! ## What is written -/

/-- Integers of few digits, and no key twice in a map or record. -/
def IsRegular [Readers] : Datum → Prop
  | .int n => Json.FewDigits n
  | .map entries => (Entries.keys entries).Nodup
  | .record _ entries => (Entries.keys entries).Nodup
  | _ => True

theorem message_of_written {m : Message} {j : Json} (h : m.written = .ok j) :
    ∃ s, j = .object [("kind", .str m.kind.label), ("data", .str s)] := by
  unfold Message.written at h
  obtain ⟨s, -, h⟩ := bind_eq_ok.mp h
  exact ⟨s, (Except.ok.inj h).symm⟩

theorem keys_of_entriesToJson {room : Nat} {es : List (Text × Datum)} {js : List (String × Json)}
    (h : entriesToJson room es = .ok js) : Entries.keys es = (Entries.keys js).map .whole := by
  induction es generalizing js with
  | nil => cases h; rfl
  | cons e rest ih =>
    obtain ⟨k, d⟩ := e
    obtain ⟨s, j, js', rfl, -, hjs, rfl⟩ := entriesToJson_cons_eq_ok.mp h
    show .whole s :: Entries.keys rest = .whole s :: (Entries.keys js').map .whole
    rw [ih hjs]

mutual

theorem depth_of_toJsonWithin {room : Nat} {d : Datum} {j : Json} (h : d.toJsonWithin room = .ok j) :
    j.depth = d.depth := by
  cases room with
  | zero => rw [toJsonWithin] at h; cases h
  | succ room =>
    cases d with
    | null | bool | int | float =>
      rw [toJsonWithin] at h
      cases h
      rfl
    | text | bytes =>
      rw [toJsonWithin] at h
      obtain ⟨s, -, rfl⟩ := map_eq_ok.mp h
      rfl
    | list items =>
      rw [toJsonWithin] at h
      obtain ⟨js, hjs, rfl⟩ := map_eq_ok.mp h
      rw [Json.depth, depth, depth_of_itemsToJson hjs]
    | map entries | record title entries =>
      rw [toJsonWithin] at h
      obtain ⟨es, hes, rfl⟩ := map_eq_ok.mp h
      rw [Json.depth, depth, depth_of_entriesToJson hes]
    | message m =>
      rw [toJsonWithin] at h
      split_ifs at h
      obtain ⟨s, rfl⟩ := message_of_written h
      rfl
    | unknown => rw [toJsonWithin] at h; cases h

theorem depth_of_itemsToJson {room : Nat} {ds : List Datum} {js : List Json}
    (h : itemsToJson room ds = .ok js) : Json.depthOfItems js = depthOfItems ds := by
  cases ds with
  | nil => cases h; rfl
  | cons d rest =>
    obtain ⟨j, js', hj, hjs, rfl⟩ := itemsToJson_cons_eq_ok.mp h
    rw [Json.depthOfItems, depthOfItems, depth_of_toJsonWithin hj, depth_of_itemsToJson hjs]

theorem depth_of_entriesToJson {room : Nat} {es : List (Text × Datum)} {js : List (String × Json)}
    (h : entriesToJson room es = .ok js) : Json.depthOfEntries js = depthOfEntries es := by
  cases es with
  | nil => cases h; rfl
  | cons e rest =>
    obtain ⟨k, d⟩ := e
    obtain ⟨s, j, js', -, hj, hjs, rfl⟩ := entriesToJson_cons_eq_ok.mp h
    rw [Json.depthOfEntries, depthOfEntries, depth_of_toJsonWithin hj, depth_of_entriesToJson hjs]

end

mutual

theorem everywhere_isOrderly [Readers] {room : Nat} {d : Datum} (hd : d.Everywhere IsRegular) {j : Json}
    (h : d.toJsonWithin room = .ok j) : j.Everywhere Json.IsOrderly := by
  cases room with
  | zero => rw [toJsonWithin] at h; cases h
  | succ room =>
    cases d with
    | null | bool | int | float =>
      rw [toJsonWithin] at h
      cases h
      exact hd
    | text | bytes =>
      rw [toJsonWithin] at h
      obtain ⟨s, -, rfl⟩ := map_eq_ok.mp h
      trivial
    | list items =>
      rw [toJsonWithin] at h
      obtain ⟨js, hjs, rfl⟩ := map_eq_ok.mp h
      exact ⟨trivial, everywhereItems_isOrderly hd.2 hjs⟩
    | map entries | record title entries =>
      rw [toJsonWithin] at h
      obtain ⟨es, hes, rfl⟩ := map_eq_ok.mp h
      have hkeys : (Entries.keys entries).Nodup := hd.1
      rw [keys_of_entriesToJson hes] at hkeys
      exact ⟨hkeys.of_map _, everywhereEntries_isOrderly hd.2 hes⟩
    | message m =>
      rw [toJsonWithin] at h
      split_ifs at h
      obtain ⟨s, rfl⟩ := message_of_written h
      refine ⟨?_, trivial, trivial, trivial⟩
      show ["kind", "data"].Nodup
      decide
    | unknown => rw [toJsonWithin] at h; cases h

theorem everywhereItems_isOrderly [Readers] {room : Nat} {ds : List Datum} (hds : EverywhereItems IsRegular ds)
    {js : List Json} (h : itemsToJson room ds = .ok js) : Json.EverywhereItems Json.IsOrderly js := by
  cases ds with
  | nil => cases h; trivial
  | cons d rest =>
    obtain ⟨j, js', hj, hjs, rfl⟩ := itemsToJson_cons_eq_ok.mp h
    exact ⟨everywhere_isOrderly hds.1 hj, everywhereItems_isOrderly hds.2 hjs⟩

theorem everywhereEntries_isOrderly [Readers] {room : Nat} {es : List (Text × Datum)}
    (hes : EverywhereEntries IsRegular es) {js : List (String × Json)}
    (h : entriesToJson room es = .ok js) : Json.EverywhereEntries Json.IsOrderly js := by
  cases es with
  | nil => cases h; trivial
  | cons e rest =>
    obtain ⟨k, d⟩ := e
    obtain ⟨s, j, js', -, hj, hjs, rfl⟩ := entriesToJson_cons_eq_ok.mp h
    exact ⟨everywhere_isOrderly hes.1 hj, everywhereEntries_isOrderly hes.2 hjs⟩

end

end RemoteSigner.Datum
