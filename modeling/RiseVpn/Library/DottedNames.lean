import Mathlib.Data.List.Basic

/-!
# Names made of labels

Names are lists whose labels are separated by a `dot`. `Covers` relates a name to itself and to the
names below it. It is a preorder, so that of two families of names each covers what the other covers
when each member of one is covered by a member of the other. `covers_of_label` takes a label off
again, and `covers_iff_labels` says that a name covers a host when its labels are the last labels of
the host.
-/

set_option autoImplicit false

namespace DottedNames

variable {α : Type*} {dot : α} {name middle host label : List α}

/-- The host is the name, or ends in a dot and the name. -/
def Covers (dot : α) (name host : List α) : Prop := host = name ∨ dot :: name <:+ host

instance [DecidableEq α] : Decidable (Covers dot name host) := inferInstanceAs (Decidable (_ ∨ _))

theorem Covers.refl (dot : α) (name : List α) : Covers dot name name := .inl rfl

theorem covers_append (dot : α) (label name : List α) : Covers dot name (label ++ dot :: name) :=
  .inr (List.suffix_append label (dot :: name))

theorem Covers.trans (hfirst : Covers dot name middle) (hsecond : Covers dot middle host) :
    Covers dot name host := by
  rcases hfirst with rfl | hfirst
  · exact hsecond
  · rcases hsecond with rfl | hsecond
    · exact .inr hfirst
    · exact .inr (hfirst.trans ((List.suffix_cons dot middle).trans hsecond))

theorem Covers.subset (hcovers : Covers dot name host) : name ⊆ host := by
  rcases hcovers with rfl | hsuffix
  · exact List.Subset.refl _
  · exact List.Subset.trans (List.subset_cons_self dot name) hsuffix.subset

/-- Assumes: a label that is longer than the name. A name that covers what stands behind the label
and the label, covers what stands behind it. -/
theorem covers_of_label (hlabel : dot ∉ label) (hlong : name.length < label.length)
    (hcovers : Covers dot name (label ++ dot :: host)) : Covers dot name host := by
  rcases hcovers with hsame | ⟨front, hfront⟩
  · have hlength := congrArg List.length hsame
    simp only [List.length_append, List.length_cons] at hlength
    omega
  · rcases List.append_eq_append_iff.mp hfront with ⟨more, hmore, hrest⟩ | ⟨more, -, hrest⟩
    · cases more with
      | nil => exact .inl (List.cons.inj hrest).2.symm
      | cons head more =>
        refine absurd ?_ hlabel
        rw [hmore, (List.cons.inj hrest).1]
        exact List.mem_append_right _ List.mem_cons_self
    · cases more with
      | nil => exact .inl (List.cons.inj hrest).2
      | cons head more =>
        rw [(List.cons.inj hrest).2]
        exact covers_append dot more name

/-! ### Labels -/

section Labels

theorem intercalate_labels {front back : List (List α)} (hfront : front ≠ []) (hback : back ≠ []) :
    [dot].intercalate (front ++ back) =
      [dot].intercalate front ++ dot :: [dot].intercalate back := by
  induction front with
  | nil => exact absurd rfl hfront
  | cons label front ih =>
    cases front with
    | nil =>
      obtain ⟨first, rest, rfl⟩ := List.exists_cons_of_ne_nil hback
      simp
    | cons next front =>
      rw [List.cons_append, List.cons_append, List.intercalate_cons_cons,
        List.intercalate_cons_cons, ← List.cons_append, ih (List.cons_ne_nil _ _)]
      simp

variable [DecidableEq α]

def labels (dot : α) (name : List α) : List (List α) := name.splitOn dot

theorem labels_append (front name : List α) :
    labels dot (front ++ dot :: name) = labels dot front ++ labels dot name :=
  @List.splitOnP_append_cons _ (· == dot) front name dot (beq_self_eq_true dot)

theorem labels_ne_nil (name : List α) : labels dot name ≠ [] := List.splitOn_ne_nil dot name

theorem covers_iff_labels : Covers dot name host ↔ labels dot name <:+ labels dot host := by
  constructor
  · rintro (rfl | ⟨front, rfl⟩)
    · exact List.suffix_refl _
    · rw [labels_append]
      exact List.suffix_append _ _
  · rintro ⟨front, hfront⟩
    have hhost : [dot].intercalate (front ++ labels dot name) = host := by
      rw [hfront]
      exact List.intercalate_splitOn dot
    have hname : [dot].intercalate (labels dot name) = name := List.intercalate_splitOn dot
    by_cases hempty : front = []
    · rw [hempty, List.nil_append, hname] at hhost
      exact .inl hhost.symm
    · rw [intercalate_labels hempty (labels_ne_nil name), hname] at hhost
      rw [← hhost]
      exact covers_append dot _ name

end Labels

end DottedNames
