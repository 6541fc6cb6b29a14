import Mathlib.Data.List.Chain
import TextTemplate.Expr.Parser

/-!
# Joined text

Where segments are put together to a template, text is joined with text that follows it. Segments
whose text is not empty make a template in which nothing is left to join (`join_is_joined`).
-/

namespace TextTemplate

/-- Whether the tree is text. -/
def Expr.isText : Expr → Bool
  | .text _ => true
  | _ => false

theorem Expr.is_text_iff {expr : Expr} : expr.isText ↔ ∃ text, expr = .text text := by
  cases expr <;> simp [Expr.isText]

namespace Template

variable {expr : Expr} {rest : Template}

/-- What is no text stays apart from what follows. -/
theorem cons_of_not_text (h : ¬ expr.isText) (rest : Template) : cons expr rest = expr :: rest := by
  cases expr with
  | text text => exact absurd rfl h
  | _ => rfl

/-- Text that stands in front of no text stays as it is. -/
theorem cons_text_of_not_text {text : String} (h : ∀ second ∈ rest.head?, ¬ second.isText) :
    cons (.text text) rest = .text text :: rest := by
  cases rest with
  | nil => rfl
  | cons second rest =>
      have hsecond : ¬ second.isText := h second rfl
      cases second with
      | text text => exact absurd rfl hsecond
      | _ => rfl

/-- Something is put in front. -/
theorem cons_ne_nil (expr : Expr) (rest : Template) : cons expr rest ≠ [] := by
  by_cases hexpr : expr.isText
  · obtain ⟨text, rfl⟩ := Expr.is_text_iff.mp hexpr
    cases rest with
    | nil => exact List.cons_ne_nil _ _
    | cons second rest => cases second <;> exact List.cons_ne_nil _ _
  · rw [cons_of_not_text hexpr]
    exact List.cons_ne_nil _ _

/-- Behind text in front, a template still begins with text. -/
theorem head?_cons_text (text : String) (rest : Template) :
    ∃ joined, (cons (.text text) rest).head? = some (.text joined) := by
  cases rest with
  | nil => exact ⟨text, rfl⟩
  | cons second rest =>
      cases second with
      | text more => exact ⟨text ++ more, rfl⟩
      | _ => exact ⟨text, rfl⟩

/-- Segments that are joined to something other than text are that alone. -/
theorem eq_of_join_eq {exprs : List Expr} (h : join exprs = [expr]) (hexpr : ¬ expr.isText) :
    exprs = [expr] := by
  cases exprs with
  | nil => cases h
  | cons first more =>
      change cons first (join more) = [expr] at h
      have hfirst : ¬ first.isText := by
        intro hfirst
        obtain ⟨text, rfl⟩ := Expr.is_text_iff.mp hfirst
        obtain ⟨joined, hjoined⟩ := head?_cons_text text (join more)
        rw [h] at hjoined
        obtain rfl := Option.some.inj hjoined
        exact hexpr rfl
      rw [cons_of_not_text hfirst] at h
      obtain ⟨rfl, hmore⟩ := List.cons.inj h
      cases more with
      | nil => rfl
      | cons second more => exact absurd hmore (cons_ne_nil second (join more))

/-- Nothing is left to join: text is not empty, and no text follows text. -/
structure IsJoined (template : Template) : Prop where
  nonempty : .text "" ∉ template
  apart : template.IsChain fun first second => ¬ (first.isText ∧ second.isText)

/-- What follows no text, or is none itself, may stand in front as it is. -/
theorem IsJoined.put (h : IsJoined rest) (hexpr : expr ≠ .text "")
    (hapart : ∀ second ∈ rest.head?, ¬ (expr.isText ∧ second.isText)) :
    IsJoined (expr :: rest) := by
  refine ⟨fun hmem => ?_, List.isChain_cons.mpr ⟨hapart, h.apart⟩⟩
  obtain heq | hmem := List.mem_cons.mp hmem
  · exact hexpr heq.symm
  · exact h.nonempty hmem

/-- What is put in front of a joined template is joined with it. -/
theorem IsJoined.cons (h : IsJoined rest) (hexpr : expr ≠ .text "") :
    IsJoined (Template.cons expr rest) := by
  by_cases htext : expr.isText
  · obtain ⟨text, rfl⟩ := Expr.is_text_iff.mp htext
    by_cases hfollows : ∀ second ∈ rest.head?, ¬ second.isText
    · rw [cons_text_of_not_text hfollows]
      exact h.put hexpr fun second hsecond hboth => hfollows second hsecond hboth.2
    · -- The text behind is taken up, and what follows it is no text.
      obtain ⟨more, behind, rfl⟩ : ∃ more behind, rest = .text more :: behind := by
        cases rest with
        | nil => exact absurd (fun _ hsecond => by cases hsecond) hfollows
        | cons second behind =>
            cases second with
            | text more => exact ⟨more, behind, rfl⟩
            | _ => exact absurd (fun _ hsecond => by cases hsecond; exact Bool.noConfusion) hfollows
      obtain ⟨hapart, hbehind⟩ := List.isChain_cons.mp h.apart
      have hrest : IsJoined behind :=
        ⟨fun hmem => h.nonempty (List.mem_cons_of_mem _ hmem), hbehind⟩
      refine hrest.put (fun heq => hexpr ?_) hapart
      have hempty : text ++ more = "" := Expr.text.inj heq
      rw [(String.append_eq_empty_iff.mp hempty).1]
  · rw [cons_of_not_text htext]
    exact h.put hexpr fun _ _ hboth => htext hboth.1

/-- Segments without empty text are joined to a template in which nothing is left to join. -/
theorem join_is_joined {exprs : List Expr} (h : .text "" ∉ exprs) : IsJoined (join exprs) := by
  induction exprs with
  | nil => exact ⟨List.not_mem_nil, .nil⟩
  | cons first more ih =>
      obtain ⟨hfirst, hmore⟩ := not_or.mp fun hmem => h (List.mem_cons.mpr hmem)
      exact (ih hmore).cons (Ne.symm hfirst)

end Template

end TextTemplate
