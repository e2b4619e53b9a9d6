import Mathlib.Data.List.Basic

/-!
# Joined texts

Raw IDs and types of entities are texts joined of names. What was joined can be told from the whole where the names
hold no separator, and from the end where the ends are different.

## Main statements

* `eq_of_joined_eq`: two names without a separator are those of no other joined text.
* `eq_of_intercalate_eq`: any number of names, where none on either side holds the separator.
* `append_ne_append`: texts with different ends.
-/

namespace NodeTelemetry

/-- An ID tells two names without separators apart, and no other names make it. -/
theorem eq_of_joined_eq {a b c d : String} (ha : '_' ∉ a.toList) (hb : '_' ∉ b.toList)
    (h : a ++ "_" ++ b = c ++ "_" ++ d) : a = c ∧ b = d := by
  have hchars : a.toList ++ '_' :: b.toList = c.toList ++ '_' :: d.toList := by
    simpa using congrArg String.toList h
  rcases List.append_eq_append_iff.1 hchars with ⟨rest, hc, hrest⟩ | ⟨rest, hc, hrest⟩
  · cases rest with
    | nil => exact ⟨String.toList_inj.1 (by simpa using hc.symm), String.toList_inj.1 (by simpa using hrest)⟩
    | cons x rest =>
      -- the separator of the second ID would stand in `b`
      exact absurd (by simp [(List.cons.inj hrest).2]) hb
  · cases rest with
    | nil => exact ⟨String.toList_inj.1 (by simpa using hc), String.toList_inj.1 (by simpa using hrest.symm)⟩
    | cons x rest =>
      obtain rfl := (List.cons.inj hrest).1
      exact absurd (by simp [hc]) ha

/-- Texts between separators can be read back, if no text holds the separator. -/
theorem eq_of_intercalate_eq {sep : Char} {xs ys : List String}
    (hx : ∀ x ∈ xs, sep ∉ x.toList) (hy : ∀ y ∈ ys, sep ∉ y.toList) (hxs : xs ≠ []) (hys : ys ≠ [])
    (h : [sep].intercalate (xs.map String.toList) = [sep].intercalate (ys.map String.toList)) :
    xs = ys := by
  have split : ∀ zs : List String, (∀ z ∈ zs, sep ∉ z.toList) → zs ≠ [] →
      ([sep].intercalate (zs.map String.toList)).splitOn sep = zs.map String.toList := by
    intro zs hz hne
    refine List.splitOn_intercalate sep ?_ (by simpa using hne)
    intro l hl
    obtain ⟨z, hmem, rfl⟩ := List.mem_map.1 hl
    exact hz z hmem
  -- what was put together is taken apart again
  have hmap : xs.map String.toList = ys.map String.toList := by
    rw [← split xs hx hxs, h, split ys hy hys]
  exact List.map_injective_iff.2 (fun a b hab => String.toList_inj.1 hab) hmap

/-- Texts that end in different characters are different, whatever stands before. -/
theorem append_ne_append {x y a b : String} {c d : Char} (ha : a.toList.getLast? = some c)
    (hb : b.toList.getLast? = some d) (hne : c ≠ d) : x ++ a ≠ y ++ b := by
  intro h
  have hlast := congrArg (fun s => s.toList.getLast?) h
  simp only [String.toList_append, List.getLast?_append, ha, hb, Option.some_or] at hlast
  exact hne (Option.some.inj hlast)

end NodeTelemetry
