import Mathlib.Logic.Function.Basic
import NodeTelemetry.Proofs.EndpointCache
import NodeTelemetry.Proofs.Time.Rfc3339

/-!
# Entries that are written and read

An entry that is written is read back as it was, and counts up to the nanosecond at which its time is over. Its file is
made under a name of its own and renamed when it is complete. No source has a file of that name: the names of files
are hexadecimal digits, and this one has a dot. So whichever step of a write fails, and whatever it leaves, nothing
that is read from the cache changes.

## Main definitions

* `FileStep.done`, `FileStep.Spoils`: the files after a step that succeeds, and after one that fails.
* `FileStep.Fail`: the files after steps of which one fails.
* `EndpointCache.Holds`: files that are those of a cache.

## Main statements

* `EndpointCache.entry?_of_write`: an entry is read back.
* `EndpointCache.Holds.write`, `EndpointCache.Holds.live?_of_fail`: the cache after the steps of a write.
* `EndpointCache.write_reads_back`: what is read after a write.
-/

namespace NodeTelemetry

/-! ### The names of files -/

theorem Sha256.dot_not_mem_hexText (message : List UInt8) : '.' ∉ (hexText message).toList := by
  have hdigit : ∀ n < 16, Nat.digitChar n ≠ '.' := by decide
  rw [hexText, String.toList_ofList]
  intro hdot
  obtain ⟨b, -, hb⟩ := List.mem_flatMap.1 hdot
  have hbyte : b.toNat < 256 := b.toNat_lt
  simp only [List.mem_cons, List.not_mem_nil, or_false] at hb
  rcases hb with hb | hb
  · exact hdigit (b.toNat / 16) (by omega) hb.symm
  · exact hdigit (b.toNat % 16) (by omega) hb.symm

namespace EndpointCache

theorem fileName_ne_temporaryName (s source : Source) (process : Nat) :
    fileName s ≠ temporaryName source process := by
  intro h
  have hdot : '.' ∈ (temporaryName source process).toList := by
    simp [temporaryName, String.toList_append]
  rw [← h] at hdot
  exact Sha256.dot_not_mem_hexText _ hdot

theorem fileName_injective : Function.Injective fileName := by
  -- two digests, computed
  have hne : fileName .kubelet ≠ fileName .stateMetrics := by decide +kernel
  intro s s' h
  cases s with
  | kubelet =>
    cases s' with
    | kubelet => rfl
    | stateMetrics => exact absurd h hne
  | stateMetrics =>
    cases s' with
    | kubelet => exact absurd h.symm hne
    | stateMetrics => rfl

end EndpointCache

/-! ### Steps on files -/

namespace FileStep

/-- The files after a step that succeeds. -/
def done (files : String → CacheSlot) : FileStep → String → CacheSlot
  | create name content => Function.update files name (.file content)
  | rename name target => Function.update (Function.update files target (files name)) name .absent

/-- The files after a step that fails: a file that was to be made can be there in part, and no file has got another
name. -/
inductive Spoils (files : String → CacheSlot) : FileStep → (String → CacheSlot) → Prop
  | create (name content : String) (left : CacheSlot) :
      Spoils files (.create name content) (Function.update files name left)
  | rename (name target : String) : Spoils files (.rename name target) files

/-- The files after steps of which one fails. The steps behind it are not tried. -/
inductive Fail : (String → CacheSlot) → List FileStep → (String → CacheSlot) → Prop
  | here {files left : String → CacheSlot} {step : FileStep} (rest : List FileStep)
      (h : step.Spoils files left) : Fail files (step :: rest) left
  | later {files left : String → CacheSlot} {step : FileStep} {rest : List FileStep}
      (h : Fail (step.done files) rest left) : Fail files (step :: rest) left

end FileStep

namespace EndpointCache

variable {source : Source} {process : Nat} {content : String} {files left : String → CacheSlot}

/-- The files under the names of the sources are those of the cache. -/
def Holds (c : EndpointCache) (files : String → CacheSlot) : Prop :=
  ∀ s, c.slot s = files (fileName s)

theorem slot_ofFiles (files : String → CacheSlot) (s : Source) :
    (ofFiles files).slot s = files (fileName s) := by
  cases s <;> rfl

/-- All steps of a write together put the content at the place of its source. -/
theorem done_writeSteps (files : String → CacheSlot) (s : Source) :
    (writeSteps source process content).foldl FileStep.done files (fileName s) =
      if s = source then .file content else files (fileName s) := by
  have htemporary := fileName_ne_temporaryName s source process
  rw [writeSteps, List.foldl_cons, List.foldl_cons, List.foldl_nil, FileStep.done, FileStep.done,
    Function.update_of_ne htemporary, Function.update_self]
  by_cases hs : s = source
  · rw [hs, if_pos rfl, Function.update_self]
  · have hname : fileName s ≠ fileName source := fun h => hs (fileName_injective h)
    rw [if_neg hs, Function.update_of_ne hname, Function.update_of_ne htemporary]

/-- Steps of a write of which one fails leave the places of the sources alone. -/
theorem fail_writeSteps (h : FileStep.Fail files (writeSteps source process content) left) (s : Source) :
    left (fileName s) = files (fileName s) := by
  have htemporary := fileName_ne_temporaryName s source process
  cases h with
  | here _ hcreate =>
    -- whatever is left of the file has a name that no source has
    cases hcreate
    exact Function.update_of_ne htemporary _ _
  | later h =>
    cases h with
    | here _ hrename =>
      -- the file is complete under its own name, and stays there
      cases hrename
      exact Function.update_of_ne htemporary _ _
    | later h => cases h

/-! ### Reading back -/

variable {c after : EndpointCache} {e : CacheEntry}

theorem entry?_of_write (h : c.write source e = .ok after)
    (hurl : Url.parse e.endpoint.url.text = .ok e.endpoint.url) (htime : e.writtenAt.IsProper) :
    after.entry? source = some e := by
  obtain ⟨⟨hwritable, -⟩, rfl⟩ := write_eq_ok_iff.1 h
  have hcontent : (c.setSlot source (.file e.text)).content? source = some e.text := by
    simp only [content?, slot_setSlot_self hwritable]
  rw [EndpointCache.entry?, hcontent, Option.bind_some, CacheEntry.read?_text hurl, htime.read?_text]
  rfl

theorem content?_of_write {s : Source} (h : c.write source e = .ok after) (hs : s ≠ source) :
    after.content? s = c.content? s := by
  obtain ⟨-, rfl⟩ := write_eq_ok_iff.1 h
  rw [content?, content?, slot_setSlot_of_ne c _ hs]

/-- A write that succeeds does to the cache what its steps do to the files. -/
theorem Holds.write (h : c.Holds files) (hwrite : c.write source e = .ok after) (process : Nat) :
    after.Holds ((writeSteps source process e.text).foldl FileStep.done files) := by
  obtain ⟨⟨hwritable, -⟩, rfl⟩ := write_eq_ok_iff.1 hwrite
  intro s
  rw [done_writeSteps]
  by_cases hs : s = source
  · rw [hs, if_pos rfl, slot_setSlot_self hwritable]
  · rw [if_neg hs, slot_setSlot_of_ne c _ hs, h s]

/-- After a write of which a step fails, the same is read as before. -/
theorem Holds.live?_of_fail (h : c.Holds files)
    (hfail : FileStep.Fail files (writeSteps source process content) left) (s : Source) (ttl : Time.Lifetime)
    (now : Time.Instant) : (ofFiles left).live? ttl now s = c.live? ttl now s := by
  apply live?_congr
  rw [content?, content?, slot_ofFiles, fail_writeSteps hfail, h s]

/-- A write after one for the same source does what it would do without it. -/
theorem write_of_write {next : CacheEntry} {last : EndpointCache} (h : c.write source e = .ok after)
    (hnext : after.write source next = .ok last) : c.write source next = .ok last := by
  obtain ⟨hcan, rfl⟩ := write_eq_ok_iff.1 h
  obtain ⟨-, rfl⟩ := write_eq_ok_iff.1 hnext
  exact write_eq_ok_iff.2 ⟨hcan, setSlot_setSlot c source _ _⟩

/-- An entry counts while it is young enough, and while it is from the future. -/
theorem live?_of_entry (h : c.entry? source = some e) (ttl : Time.Lifetime) (now : Time.Instant) :
    c.live? ttl now source =
      if now.since e.writtenAt < 0 ∨ now.since e.writtenAt ≤ ttl.nanos then some e.endpoint else none := by
  have hcounts : (now.since e.writtenAt < 0 ∨ now.since e.writtenAt ≤ ttl.nanos) ↔
      e.isLive ttl now = true := by
    rw [CacheEntry.isLive, decide_eq_true_iff]
    omega
  rw [live?, h]
  by_cases hlive : e.isLive ttl now = true
  · simp [Option.filter, hlive, hcounts]
  · simp [Option.filter, hlive, hcounts]

/-- What is read after a write. A write that succeeds gives back its endpoint for as long as the entry counts, replaces
what was written before for its source, and changes nothing for the other. A write that fails changes nothing that
is read for any source, whichever of its steps fails. -/
theorem write_reads_back (source : Source) {e : CacheEntry}
    (hurl : Url.parse e.endpoint.url.text = .ok e.endpoint.url) (htime : e.writtenAt.IsProper) :
    (∀ c after : EndpointCache, c.write source e = .ok after →
      (∀ ttl now, after.live? ttl now source =
        if now.since e.writtenAt < 0 ∨ now.since e.writtenAt ≤ ttl.nanos then some e.endpoint else none) ∧
      (∀ other, other ≠ source → ∀ ttl now,
        after.live? ttl now other = c.live? ttl now other) ∧
      ∀ next last, after.write source next = .ok last → c.write source next = .ok last) ∧
    (∀ (c : EndpointCache) (cause : CacheError), c.write source e = .error cause → ∀ s ttl now,
      (c.keep source e).live? ttl now s = c.live? ttl now s) ∧
    ∀ (c : EndpointCache) (files : String → CacheSlot) (process : Nat), c.Holds files →
      (∀ after, c.write source e = .ok after →
        after.Holds ((writeSteps source process e.text).foldl FileStep.done files)) ∧
      ∀ left, FileStep.Fail files (writeSteps source process e.text) left → ∀ s ttl now,
        (ofFiles left).live? ttl now s = c.live? ttl now s := by
  refine ⟨fun c after hwrite => ⟨?_, ?_, ?_⟩, fun c cause hwrite s ttl now => ?_,
    fun c files process hfiles => ⟨fun after hwrite => ?_, fun left hfail s ttl now => ?_⟩⟩
  · exact live?_of_entry (entry?_of_write hwrite hurl htime)
  · exact fun other hother => live?_congr (content?_of_write hwrite hother)
  · exact fun next last hnext => write_of_write hwrite hnext
  · rw [keep, hwrite]
  · exact hfiles.write hwrite process
  · exact hfiles.live?_of_fail hfail s ttl now

/-- An entry of a node with a strange name, written in a leap second. -/
def leapEntry : CacheEntry where
  endpoint :=
    { url := ⟨"https", "", "", some (.ipv4 0x0A000001), some 10250, .segments [""], none, none⟩
      nodeIp := "10.0.0.1\"\n"
      auth := .serviceAccount }
  writtenAt := ⟨1483228799, 1500000000⟩

/-- It counts for half a second and not for a nanosecond more, and a write that breaks off leaves it there. -/
theorem write_reads_back_leapEntry :
    Url.parse leapEntry.endpoint.url.text = .ok leapEntry.endpoint.url ∧ leapEntry.writtenAt.IsProper ∧
    ∃ after, missing.write .kubelet leapEntry = .ok after ∧
      after.live? ⟨500000000⟩ ⟨1483228801, 0⟩ .kubelet = some leapEntry.endpoint ∧
      after.live? ⟨500000000⟩ ⟨1483228801, 1⟩ .kubelet = none ∧
      ∀ files, after.Holds files → ∀ left,
        FileStep.Fail files (writeSteps .kubelet 7 leapEntry.text) left →
        (ofFiles left).live? ⟨500000000⟩ ⟨1483228801, 0⟩ .kubelet = some leapEntry.endpoint := by
  have hurl : Url.parse leapEntry.endpoint.url.text = .ok leapEntry.endpoint.url := rfl
  have htime : leapEntry.writtenAt.IsProper := ⟨by decide, by decide, by decide, by decide⟩
  have hwrite : missing.write .kubelet leapEntry =
      .ok (missing.setSlot .kubelet (.file leapEntry.text)) := rfl
  obtain ⟨hread, -, hsteps⟩ := write_reads_back .kubelet hurl htime
  obtain ⟨hlive, -, -⟩ := hread _ _ hwrite
  refine ⟨hurl, htime, _, hwrite, ?_, ?_, fun files hfiles left hfail => ?_⟩
  · rw [hlive]
    rfl
  · rw [hlive]
    rfl
  · rw [(hsteps _ files 7 hfiles).2 left hfail, hlive]
    rfl

end EndpointCache

end NodeTelemetry
