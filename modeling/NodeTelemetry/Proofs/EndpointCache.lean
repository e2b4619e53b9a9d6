import NodeTelemetry.EndpointCache
import NodeTelemetry.Proofs.Json.RoundTrip

/-!
# What is read from the cache

An entry is written as JSON without numbers, so its text reads back; what may get lost is only the whole entry, if
its time can not be read. A write changes the entry of its source alone, and a write that fails changes nothing.

## Main definitions

* `EndpointCache.isWritable`, `EndpointCache.IsEmpty`: caches that can be written, and without files that can be read.
* `EndpointCache.AgreeOn`: caches that look alike to a source.

## Main statements

* `Endpoint.read?_json`: an endpoint reads back if its URL does.
* `CacheEntry.read?_text`: an entry reads back if moreover its time does.
* `EndpointCache.write_eq_ok_iff`: when a write succeeds, and what it does.
* `EndpointCache.entry?_keep`: every entry after a write.
-/

namespace NodeTelemetry

/-! ### Entries -/

theorem EndpointAuth.ofName?_name (auth : EndpointAuth) : ofName? auth.name = some auth := by
  cases auth <;> rfl

namespace Endpoint

/-- An endpoint is read back from its document, if its URL is read back from its text. -/
theorem read?_json {e : Endpoint} (h : Url.parse e.url.text = .ok e.url) :
    read? e.json = some e := by
  have hurl : readUrl? (.str e.url.text) = some e.url := by
    simp [readUrl?, Json.asText?, h, Except.toOption]
  have hauth : readAuth? (.str e.auth.name) = some e.auth := e.auth.ofName?_name
  simp [read?, json, Json.strictRecord, Json.required, Json.defaulted, hurl, hauth, Json.asText?,
    TextMap.lookup_cons_ite]

end Endpoint

namespace CacheEntry

theorem readsBack_json (e : CacheEntry) : e.json.ReadsBack := by
  simp [json, Endpoint.json, Json.ReadsBack, Json.FieldsReadBack]

/-- The text of an entry gives its endpoint with the time that is read, or nothing if that can not be read. -/
theorem read?_text {e : CacheEntry} (h : Url.parse e.endpoint.url.text = .ok e.endpoint.url) :
    read? e.text = (Time.Instant.read? (e.writtenAt.text "Z")).map fun t => ⟨e.endpoint, t⟩ := by
  rw [read?, text, Json.read?_text e.readsBack_json, Option.bind_some]
  simp [ofJson?, json, Json.strictRecord, Json.required, TextMap.lookup_cons_ite]
  cases htime : Time.Instant.read? (e.writtenAt.text "Z") with
  | none => simp [Endpoint.read?_json h, Json.asText?, htime]
  | some t => simp [Endpoint.read?_json h, Json.asText?, htime]

end CacheEntry

namespace EndpointCache

/-- Whether files can be made in the directory, which may still have to be made itself. -/
def isWritable : EndpointCache → Bool
  | missing => true
  | directory writable _ _ => writable
  | obstructed => false

/-- A cache without files that can be read. -/
def IsEmpty (c : EndpointCache) : Prop :=
  ∀ source, c.content? source = none

variable {c : EndpointCache} {source : Source}

theorem IsEmpty.entry?_eq_none (h : c.IsEmpty) : c.entry? source = none := by
  rw [EndpointCache.entry?, h source, Option.bind_none]

/-- What counts for a source depends on the text of its file alone. -/
theorem live?_congr {c' : EndpointCache} (h : c.content? source = c'.content? source) (ttl : Time.Lifetime)
    (now : Time.Instant) : c.live? ttl now source = c'.live? ttl now source := by
  simp only [live?, EndpointCache.entry?, h]

theorem slot_setSlot_self {c : EndpointCache} (h : c.isWritable = true) (source : Source)
    (slot : CacheSlot) : (c.setSlot source slot).slot source = slot := by
  cases c with
  | obstructed => cases h
  | missing => cases source <;> rfl
  | directory writable kubelet stateMetrics => cases source <;> rfl

theorem slot_setSlot_of_ne (c : EndpointCache) {source s : Source} (slot : CacheSlot)
    (h : s ≠ source) : (c.setSlot source slot).slot s = c.slot s := by
  cases c <;> cases source <;> cases s <;> first | exact absurd rfl h | rfl

/-- What is put at the place of a source replaces what was put there before. -/
theorem setSlot_setSlot (c : EndpointCache) (source : Source) (slot slot' : CacheSlot) :
    (c.setSlot source slot).setSlot source slot' = c.setSlot source slot' := by
  cases c <;> cases source <;> rfl

theorem isWritable_setSlot (c : EndpointCache) (source : Source) (slot : CacheSlot) :
    (c.setSlot source slot).isWritable = c.isWritable := by
  cases c <;> cases source <;> rfl

/-- A write succeeds where the directory and the place in it can be written, and puts the text of the entry there. -/
theorem write_eq_ok_iff {c after : EndpointCache} {e : CacheEntry} :
    c.write source e = .ok after ↔
      (c.isWritable = true ∧ c.slot source ≠ .obstructed) ∧ after = c.setSlot source (.file e.text) := by
  rw [write.eq_def]
  cases c with
  | missing => simp [isWritable, slot, eq_comm]
  | obstructed => simp [isWritable]
  | directory writable kubelet stateMetrics =>
    cases writable with
    | false => simp [isWritable]
    | true =>
      cases hslot : (directory true kubelet stateMetrics).slot source with
      | absent => simp [isWritable, eq_comm]
      | file content => simp [isWritable, eq_comm]
      | obstructed => simp

/-- An entry is kept where the directory and the place in it can be written. -/
theorem keep_eq (c : EndpointCache) (source : Source) (e : CacheEntry) :
    c.keep source e =
      if c.isWritable = true ∧ c.slot source ≠ .obstructed then c.setSlot source (.file e.text) else c := by
  rw [keep]
  cases hwrite : c.write source e with
  | ok after =>
    obtain ⟨hcan, rfl⟩ := write_eq_ok_iff.1 hwrite
    rw [if_pos hcan]
  | error cause =>
    rw [if_neg]
    intro hcan
    rw [write_eq_ok_iff.2 ⟨hcan, rfl⟩] at hwrite
    cases hwrite

theorem isWritable_keep (c : EndpointCache) (source : Source) (e : CacheEntry) :
    (c.keep source e).isWritable = c.isWritable := by
  rw [keep_eq]
  split
  · exact c.isWritable_setSlot source _
  · rfl

theorem slot_keep_self (c : EndpointCache) (source : Source) (e : CacheEntry) :
    (c.keep source e).slot source =
      if c.isWritable = true ∧ c.slot source ≠ .obstructed then .file e.text else c.slot source := by
  rw [keep_eq]
  split
  · next h => exact slot_setSlot_self h.1 source _
  · rfl

theorem slot_keep_of_ne (c : EndpointCache) {source s : Source} (e : CacheEntry) (h : s ≠ source) :
    (c.keep source e).slot s = c.slot s := by
  rw [keep_eq]
  split
  · exact c.slot_setSlot_of_ne _ h
  · rfl

/-- A source has the text that it had before a write, unless the write was for it and succeeded. -/
theorem content?_keep (c : EndpointCache) (source s : Source) (e : CacheEntry) :
    (c.keep source e).content? s = c.content? s ∨
      s = source ∧ (c.keep source e).content? s = some e.text := by
  by_cases hs : s = source
  · subst hs
    have hslot := c.slot_keep_self s e
    split at hslot
    · exact .inr ⟨rfl, by simp only [content?, hslot]⟩
    · exact .inl (by simp only [content?, hslot])
  · exact .inl (by simp only [content?, slot_keep_of_ne c e hs])

/-- What can be read after a write was there before, or has the endpoint that was written. -/
theorem entry?_keep {s : Source} {e entry : CacheEntry}
    (hurl : Url.parse e.endpoint.url.text = .ok e.endpoint.url)
    (h : EndpointCache.entry? (c.keep source e) s = some entry) :
    c.entry? s = some entry ∨ s = source ∧ entry.endpoint = e.endpoint := by
  rw [EndpointCache.entry?] at h
  rcases c.content?_keep source s e with hcontent | ⟨hs, hcontent⟩
  · rw [hcontent] at h
    exact .inl h
  -- the time may be read back or not, the endpoint is
  · rw [hcontent, Option.bind_some, CacheEntry.read?_text hurl] at h
    obtain ⟨t, -, rfl⟩ := Option.map_eq_some_iff.1 h
    exact .inr ⟨hs, rfl⟩

/-! ### What a source sees of the cache -/

/-- The caches look alike to a source: it sees the place of its own file, and whether the directory can be written. -/
structure AgreeOn (s : Source) (c c' : EndpointCache) : Prop where
  slot_eq : c.slot s = c'.slot s
  isWritable_eq : c.isWritable = c'.isWritable

section AgreeOn

variable {s : Source} {c c' : EndpointCache}

theorem AgreeOn.content?_eq (h : AgreeOn s c c') : c.content? s = c'.content? s := by
  rw [content?, content?, h.slot_eq]

theorem AgreeOn.keep (h : AgreeOn s c c') (e : CacheEntry) : AgreeOn s (c.keep s e) (c'.keep s e) where
  slot_eq := by rw [slot_keep_self, slot_keep_self, h.slot_eq, h.isWritable_eq]
  isWritable_eq := by rw [isWritable_keep, isWritable_keep, h.isWritable_eq]

theorem agreeOn_keep_of_ne (hs : s ≠ source) (e : CacheEntry) : AgreeOn s (c.keep source e) c where
  slot_eq := c.slot_keep_of_ne e hs
  isWritable_eq := c.isWritable_keep source e

end AgreeOn

end EndpointCache

end NodeTelemetry
