import AuthGateway.Http.ContentCoding
import AuthGateway.Http.CrossOrigin
import Mathlib.Tactic.SplitIfs

/-!
# Fields that stages leave alone

The fields of one name are what `Headers.all` gives.  Adding, setting and erasing fields of other
names does not change them (`all_add_of_ne`, `all_set_of_ne`, `all_erase_of_ne`), so compressing an
answer and showing it to other origins only touch the few names in `ContentCoding.touched` and
`CrossOrigin.touched`.  In turn both depend on one field of the request each
(`ContentCoding.apply_congr`, `CrossOrigin.expose_congr`).
-/

namespace AuthGateway

namespace Headers

variable {h : Headers} {name name' value : String}

theorem all_add_self : (h.add name value).all name = h.all name ++ [value] := by
  unfold add all
  rw [List.filter_append, List.map_append]
  simp

theorem all_add_of_ne (hne : name' ≠ name) : (h.add name' value).all name = h.all name := by
  have hnone : [(name', value)].filter (·.1 = name) = [] := by
    simpa using hne
  unfold add all
  rw [List.filter_append, hnone, List.append_nil]

theorem all_erase_of_ne (hne : name' ≠ name) : (h.erase name').all name = h.all name := by
  unfold erase all
  rw [List.filter_filter]
  congr 2
  funext b
  by_cases hb : b.1 = name
  · have hb' : b.1 ≠ name' := by
      rw [hb]
      exact hne.symm
    simp [hb, hne.symm]
  · simp [hb]

theorem all_set_of_ne (hne : name' ≠ name) : (h.set name' value).all name = h.all name := by
  unfold set
  rw [all_add_of_ne hne, all_erase_of_ne hne]

/-- Leaving out fields of other names leaves the fields of a name. -/
theorem all_filter {P : String × String → Bool} (hP : ∀ b, b.1 = name → P b = true) :
    Headers.all (h.filter P) name = h.all name := by
  unfold all
  rw [List.filter_filter]
  congr 2
  funext b
  by_cases hb : b.1 = name
  · rw [hP b hb, Bool.and_true]
  · simp [hb]

/-- The first value of a name is the first of all its values. -/
theorem get?_eq_head? : h.get? name = (h.all name).head? := by
  unfold get? all
  induction h with
  | nil => rfl
  | cons b rest ih =>
    obtain ⟨n, v⟩ := b
    by_cases hn : n = name
    · subst hn
      simp
    · have hne : (name == n) = false := beq_eq_false_iff_ne.2 (Ne.symm hn)
      rw [List.lookup_cons, hne, List.filter_cons_of_neg (by simpa using hn)]
      exact ih

end Headers

/-! ### Compressing -/

namespace ContentCoding

/-- The names of the fields of an answer that compressing it can change. -/
def touched : List String :=
  ["vary", "accept-ranges", "content-encoding"]

variable {h h' : Headers} {r : Response}

theorem status_apply : (apply h r).status = r.status := by
  unfold apply
  split_ifs <;> rfl

theorem body_apply : (apply h r).body = r.body := by
  unfold apply
  split_ifs <;> rfl

theorem all_apply {name : String} (hname : name ∉ touched) :
    (apply h r).headers.all name = r.headers.all name := by
  obtain ⟨hvary, hranges, hencoding⟩ :
      "vary" ≠ name ∧ "accept-ranges" ≠ name ∧ "content-encoding" ≠ name := by
    simpa [touched, eq_comm] using hname
  unfold apply
  split_ifs
  · exact (Headers.all_set_of_ne hencoding).trans
      ((Headers.all_erase_of_ne hranges).trans (Headers.all_add_of_ne hvary))
  · exact Headers.all_add_of_ne hvary
  · rfl

/-- Whether an answer is compressed depends on what the client accepts. -/
theorem apply_congr (hh : h.all "accept-encoding" = h'.all "accept-encoding") :
    apply h r = apply h' r := by
  have hweight (c : Coding) : weightFor c h = weightFor c h' := by
    unfold weightFor entries
    rw [hh]
  have hprefers : prefersGzip h = prefersGzip h' := by
    unfold prefersGzip
    rw [hweight, hweight]
  unfold apply
  rw [hprefers]

end ContentCoding

/-! ### Showing to other origins -/

namespace CrossOrigin

/-- The names of the fields of an answer that showing it to other origins can change. -/
def touched : List String :=
  ["vary", "access-control-allow-credentials", "access-control-allow-origin",
    "access-control-expose-headers"]

variable {r r' : Request} {response : Response}

theorem status_expose : (expose r response).status = response.status := by
  unfold expose mark allowOrigin
  split <;> rfl

theorem body_expose : (expose r response).body = response.body := by
  unfold expose mark allowOrigin
  split <;> rfl

theorem all_expose {name : String} (hname : name ∉ touched) :
    (expose r response).headers.all name = response.headers.all name := by
  obtain ⟨hvary, hcredentials, horigin, hexpose⟩ : "vary" ≠ name
      ∧ "access-control-allow-credentials" ≠ name ∧ "access-control-allow-origin" ≠ name
      ∧ "access-control-expose-headers" ≠ name := by
    simpa [touched, eq_comm] using hname
  have hcommon : ((response.add "vary" (String.intercalate ", " vary)).set
      "access-control-allow-credentials" "true").headers.all name = response.headers.all name :=
    (Headers.all_set_of_ne hcredentials).trans (Headers.all_add_of_ne hvary)
  unfold expose mark allowOrigin
  refine (Headers.all_set_of_ne hexpose).trans ?_
  split
  · exact (Headers.all_set_of_ne horigin).trans hcommon
  · exact hcommon

/-- How an answer is shown to other origins depends on the origin of the request. -/
theorem expose_congr (hr : r.headers.all "origin" = r'.headers.all "origin") :
    expose r response = expose r' response := by
  have horigin : r.headers.get? "origin" = r'.headers.get? "origin" := by
    rw [Headers.get?_eq_head?, Headers.get?_eq_head?, hr]
  unfold expose mark allowOrigin
  rw [horigin]

end CrossOrigin

end AuthGateway
