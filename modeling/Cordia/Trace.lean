import Mathlib.Data.List.Basic
/-!
# Histories

Several properties speak of a run's history rather than of its last state: "the latest
`register_peer` of `p`", "since `u`'s record last became absent". `Since start stop h` says that
some event of `h` satisfies `start` and that no later event satisfies `stop`. `stop` also sees
the history before the event it judges: whether a presence snapshot repairs a set depends on
what the store held when it ran.

Every proof about `Since` goes through `since_append_singleton`, the one-step view that an
induction over a run needs.
-/

namespace Cordia

section Since

variable {ε : Type} (start : ε → Prop) (stop : List ε → ε → Prop)

/-- Some event of `h` satisfies `start`, and no event after it satisfies `stop`. -/
def Since (h : List ε) : Prop :=
  ∃ pre x post, h = pre ++ x :: post ∧ start x ∧
    ∀ mid y rest, post = mid ++ y :: rest → ¬stop (pre ++ x :: mid) y

theorem not_since_nil : ¬Since start stop [] := by
  rintro ⟨pre, x, post, h, -⟩
  simp at h

/-- Where an event of `h ++ [y]` sits: it is the last one, `y`, or an event of `h`. -/
theorem snoc_eq_append_cons {h pre post : List ε} {x y : ε} (e : h ++ [y] = pre ++ x :: post) :
    (h = pre ∧ x = y ∧ post = []) ∨ ∃ post', post = post' ++ [y] ∧ h = pre ++ x :: post' := by
  rcases List.eq_nil_or_concat post with rfl | ⟨post, z, rfl⟩
  · obtain ⟨rfl, hxy⟩ := List.append_inj' e rfl
    cases hxy
    exact .inl ⟨rfl, rfl, rfl⟩
  · rw [List.concat_eq_append, ← List.cons_append, ← List.append_assoc] at e
    obtain ⟨rfl, hyz⟩ := List.append_inj' e rfl
    cases hyz
    exact .inr ⟨post, List.concat_eq_append .., rfl⟩

theorem since_append_singleton (h : List ε) (y : ε) :
    Since start stop (h ++ [y]) ↔ start y ∨ (¬stop h y ∧ Since start stop h) := by
  constructor
  · rintro ⟨pre, x, post, he, hx, hs⟩
    rcases snoc_eq_append_cons he with ⟨rfl, rfl, rfl⟩ | ⟨post, rfl, rfl⟩
    · exact .inl hx
    · exact .inr ⟨hs post y [] rfl, pre, x, post, rfl, hx,
        fun mid w rest e => hs mid w (rest ++ [y]) (by simp [e])⟩
  · rintro (hy | ⟨hy, pre, x, post, rfl, hx, hs⟩)
    · exact ⟨h, y, [], rfl, hy, fun mid w rest e => by simp at e⟩
    · refine ⟨pre, x, post ++ [y], by simp, hx, fun mid w rest e => ?_⟩
      rcases snoc_eq_append_cons e with ⟨rfl, rfl, rfl⟩ | ⟨rest, rfl, rfl⟩
      · exact hy
      · exact hs mid w rest rfl

end Since

end Cordia
