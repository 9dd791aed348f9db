import BlockMarkup.Proofs.Component
import BlockMarkup.Proofs.Document.Layout
import BlockMarkup.Proofs.Rendering.Events

/-!
# Complete forests

A forest is complete when all of its blocks are closed and of known components and its lines are inert
(`Forest.Complete`); such is the forest of a text without reports on its structure
(`complete_ofText`). All that is rendered from it is inert, because a block of inert lines is rendered
to inert lines (`Complete.inert_rendered`).
-/

namespace BlockMarkup

open Text Marker Layout

namespace Marker

theorem newline_notMem_of_header? {t h : Text} (hh : header? t = some h) : '\n' ∉ h := by
  unfold header? at hh
  split at hh
  · simp [← Option.some.inj hh]
  · next u _ =>
    by_cases hu : '\n' ∈ u
    · simp [hu] at hh
    · rw [if_neg (by simpa using hu)] at hh
      rw [← Option.some.inj hh]
      exact newline_notMem_trim hu
  · cases hh

theorem newline_notMem_header {l : Text} {m : Opener} (h : opener? l = some m) : '\n' ∉ m.header := by
  unfold opener? at h
  split at h
  · split at h
    · obtain ⟨u, hu, rfl⟩ := Option.map_eq_some_iff.mp h
      exact newline_notMem_of_header? hu
    · cases h
  · cases h

end Marker

theorem Opening.WellFormed.newline_notMem_title {o : Opening} (h : o.WellFormed) : '\n' ∉ o.title :=
  newline_notMem_header h.opener

namespace Forest

/-- All blocks are closed and of known components, all lines outside their heads are inert. -/
inductive Complete : Forest → Prop
  | nil : Complete nil
  | line {n : Nat} {t : Text} {f : Forest} (ht : Inert t) (hf : Complete f) : Complete (line n t f)
  | block {o : Opening} {i f : Forest} {cl : Closing} {c : Component} (hc : o.component? = some c)
      (ht : '\n' ∉ o.title) (hi : Complete i) (hf : Complete f) : Complete (block o i (some cl) f)

variable {f : Forest} {pictograms : Text}

theorem Complete.known (h : f.Complete) : ∀ n ∈ f.preorder, n.opening.component?.isSome := by
  induction h with
  | nil => simp [preorder]
  | line _ _ ih => exact ih
  | block hc _ _ _ ihi ihf =>
    refine List.forall_mem_cons.mpr ⟨?_, List.forall_mem_append.mpr ⟨ihi, ihf⟩⟩
    rw [hc]
    rfl

/-- The HTML of a block around inert lines. -/
theorem inert_html_block {o : Opening} (ht : '\n' ∉ o.title) (i : Forest) (c : Component) (cl : Closing)
    (hp : '\n' ∉ pictograms) {inside : List Text} (hinside : ∀ l ∈ inside.flatMap lines, Inert l)
    (number : Nat) :
    ∀ l ∈ lines ((Node.block ⟨o, i, some cl⟩ c cl inside).html pictograms number), Inert l := by
  refine Block.inert_html hp ht (fun l hl => ?_) number
  rcases eq_nil_or_mem_of_mem_lines_unlines hl with rfl | hl
  · exact .nil
  · exact hinside l hl

theorem Complete.inert_rendered (h : f.Complete) (hp : '\n' ∉ pictograms) (k : Nat) :
    ∀ l ∈ (f.rendered (fun _ => true) pictograms k).flatMap lines, Inert l := by
  induction h generalizing k with
  | nil => simp [rendered]
  | line ht _ ih =>
    rw [rendered, List.flatMap_cons, lines_eq_singleton ht.flat]
    exact List.forall_mem_cons.mpr ⟨ht, ih k⟩
  | @block o i f cl c hc ht _ _ ihi ihf =>
    rw [rendered, List.flatMap_cons]
    refine List.forall_mem_append.mpr ⟨?_, ihf _⟩
    simp only [Node.html, hc, if_true]
    exact inert_html_block ht i c cl hp (ihi _) _

/-! ## The forest of a text -/

variable {ls : List Text} {s : Surrounding} {a b : Nat}

theorem Lies.complete (h : Lies ls s a f b) (hls : ∀ l ∈ ls, '\n' ∉ l)
    (hstrip : ∀ l ∈ ls, isMarker l = false → isMarker (trim l) = false)
    (hstrays : s = .document → f.strays = []) (hunclosed : f.unclosed = [])
    (hknown : ∀ n ∈ f.preorder, n.opening.component?.isSome) : f.Complete := by
  induction h with
  | nil => exact .nil
  | @line s a b t f ht ho hc hf ih =>
    have hclose : isCloser t = false := by
      by_contra hne
      rw [Bool.not_eq_false] at hne
      have := hstrays (hc hne).1
      simp [strays, hne] at this
    have hmem : t ∈ ls := List.mem_of_getElem? ht
    have hmarker : isMarker t = false := by simp [isMarker, isOpener, ho, hclose]
    refine .line ⟨hls t hmem, hstrip t hmem hmarker⟩ (ih (fun hs => ?_) hunclosed hknown)
    have := hstrays hs
    rwa [strays, hclose, if_neg (by decide)] at this
  | @closed s a b e o i f cl ho hi hc hf ihi ihf =>
    obtain ⟨hself, hrest⟩ := List.forall_mem_cons.mp hknown
    obtain ⟨hknowni, hknownf⟩ := List.forall_mem_append.mp hrest
    obtain ⟨hui, huf⟩ := List.append_eq_nil_iff.mp hunclosed
    obtain ⟨c, hcomp⟩ := Option.isSome_iff_exists.mp hself
    exact .block hcomp ho.wellFormed.newline_notMem_title (ihi (fun hs => by cases hs) hui hknowni)
      (ihf hstrays huf hknownf)
  | unclosed => cases hunclosed

theorem complete_ofText {t : Text} (hreports : (ofText t).reports = [])
    (hknown : ∀ n ∈ (ofText t).preorder, n.opening.component?.isSome)
    (hstrip : ∀ l ∈ lines t, isMarker l = false → isMarker (trim l) = false) : (ofText t).Complete := by
  obtain ⟨hstrays, hunclosed⟩ := List.append_eq_nil_iff.mp hreports
  exact (lies_ofText t).complete (fun l hl => newline_notMem_of_mem_lines hl) hstrip
    (fun _ => List.map_eq_nil_iff.mp hstrays) (List.map_eq_nil_iff.mp hunclosed) hknown

end Forest

end BlockMarkup
