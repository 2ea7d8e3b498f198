/-
What is read nests less deep than the bound that it was read under. The
parser never looks at the depth of a value; it counts the levels that are
open when another one opens. So the invariant of its states is about those
levels: what each of them holds so far nests so little that the level may
be closed, and its value handed to the levels below, without reaching the
bound (`Nested`). Every token keeps that (`nested_step`), and of a complete
value it says that the value is below the bound (`depth_lt_of_ofBytes?`).
-/
import ProviderLink.Json.Parser
import ProviderLink.Proofs.Json.Canonical

namespace ProviderLink.Json

-- =============================================================== states

/-- How deep what an open level holds so far nests. -/
def Frame.depth : Frame → Nat
  | .array items => depthItems items
  | .object members _ => depthMembers members

/-- Each open level may be closed among those below it. -/
def Nested (bound : Nat) : List Frame → Prop
  | [] => True
  | frame :: stack => stack.length + (frame.depth + 1) < bound ∧ Nested bound stack

/-- The open levels may be closed, or there is a value below the bound. -/
def ParseState.Nested (bound : Nat) : ParseState → Prop
  | .within stack _ => Json.Nested bound stack
  | .complete v => v.depth < bound

variable {bound : Nat} {stack : List Frame}

theorem Nested.length_lt (h : Nested bound stack) (hbound : 0 < bound) :
    stack.length < bound := by
  cases stack with
  | nil => exact hbound
  | cons frame stack =>
      have hframe := h.1
      rw [List.length_cons]
      omega

-- =============================================================== tokens

/-- A value may be put in place if it leaves room for the levels below it. -/
theorem nested_supply {v : Json} (hv : stack.length + v.depth < bound) (h : Nested bound stack) :
    (supply v stack).Nested bound := by
  cases stack with
  | nil => exact Nat.lt_of_le_of_lt (Nat.le_add_left ..) hv
  | cons frame stack =>
      rw [List.length_cons] at hv
      cases frame with
      | array items =>
          refine ⟨?_, h.2⟩
          have hframe : stack.length + (depthItems items + 1) < bound := h.1
          rw [Frame.depth, depthItems]
          omega
      | object members name =>
          refine ⟨?_, h.2⟩
          have hframe : stack.length + (depthMembers members + 1) < bound := h.1
          rw [Frame.depth, depthMembers]
          omega

/-- What is no array or object nests nothing. -/
theorem depth_of_scalar? {t : Token} {v : Json} (h : scalar? t = some v) : v.depth = 0 := by
  cases t with
  | null | bool | number | string =>
      cases h
      rfl
  | _ => cases h

theorem nested_beginValue (hbound : 0 < bound) (h : Nested bound stack) {t : Token}
    {state : ParseState} (hstep : beginValue (some bound) stack t = some state) :
    state.Nested bound := by
  have hopen : hasRoom (some bound) stack = true → stack.length + (0 + 1) < bound :=
    fun hroom => of_decide_eq_true hroom
  unfold beginValue at hstep
  split at hstep
  · split at hstep
    · next hroom =>
      cases hstep
      exact ⟨hopen hroom, h⟩
    · cases hstep
  · split at hstep
    · next hroom =>
      cases hstep
      exact ⟨hopen hroom, h⟩
    · cases hstep
  · obtain ⟨v, hv, rfl⟩ := Option.map_eq_some_iff.1 hstep
    refine nested_supply ?_ h
    rw [depth_of_scalar? hv]
    exact h.length_lt hbound

theorem nested_close? (h : Nested bound stack) {t : Token} {state : ParseState}
    (hstep : close? stack t = some state) : state.Nested bound := by
  unfold close? at hstep
  split at hstep
  · next items stack =>
    cases hstep
    refine nested_supply (Nat.lt_of_le_of_lt ?_ h.1) h.2
    have hitems := depthItems_le.1 (Nat.le_refl (depthItems items))
    rw [depth, Frame.depth]
    exact Nat.add_le_add_left (Nat.succ_le_succ (depthItems_le.2 fun v hv =>
      hitems v (List.mem_reverse.1 hv))) _
  · next members name stack =>
    cases hstep
    refine nested_supply (Nat.lt_of_le_of_lt ?_ h.1) h.2
    have hmembers := depthMembers_le.1 (Nat.le_refl (depthMembers members))
    rw [depth, Frame.depth]
    exact Nat.add_le_add_left (Nat.succ_le_succ (depthMembers_le.2 fun e he =>
      hmembers e (List.mem_reverse.1 he))) _
  · cases hstep

theorem nested_beginName (h : Nested bound stack) {t : Token} {state : ParseState}
    (hstep : beginName stack t = some state) : state.Nested bound := by
  unfold beginName at hstep
  split at hstep
  · cases hstep
    exact h
  · cases hstep

/-- A token keeps the levels closable. -/
theorem nested_step (hbound : 0 < bound) (h : Nested bound stack) {awaiting : Awaiting}
    {t : Token} {state : ParseState} (hstep : step (some bound) stack awaiting t = some state) :
    state.Nested bound := by
  cases awaiting with
  | value => exact nested_beginValue hbound h hstep
  | itemOrEnd =>
      unfold step at hstep
      dsimp only at hstep
      split at hstep
      · exact nested_close? h hstep
      · exact nested_beginValue hbound h hstep
  | name => exact nested_beginName h hstep
  | nameOrEnd =>
      unfold step at hstep
      dsimp only at hstep
      split at hstep
      · exact nested_close? h hstep
      · exact nested_beginName h hstep
  | separator =>
      unfold step at hstep
      dsimp only at hstep
      split at hstep
      · cases hstep
        exact h
      · cases hstep
  | commaOrEnd =>
      unfold step at hstep
      dsimp only at hstep
      split at hstep
      · split at hstep
        · cases hstep
          exact h
        · cases hstep
          exact h
        · cases hstep
      · exact nested_close? h hstep

-- ================================================================ texts

/-- So do all tokens of a text. -/
theorem depth_lt_of_parseFrom (hbound : 0 < bound) (ts : List Token) : ∀ {state : ParseState},
    state.Nested bound → ∀ {v : Json}, parseFrom (some bound) state ts = some v →
      v.depth < bound := by
  induction ts with
  | nil =>
      intro state h v hparse
      cases state with
      | complete w =>
          cases hparse
          exact h
      | within => cases hparse
  | cons t ts ih =>
      intro state h v hparse
      cases state with
      | complete => cases hparse
      | within stack awaiting =>
          rw [parseFrom] at hparse
          split at hparse
          · next state hstep => exact ih (nested_step hbound h hstep) hparse
          · cases hparse

/-- A value read from bytes nests less deep than the bound. -/
theorem depth_lt_of_ofBytes? {bytes : Bytes} {v : Json} (h : ofBytes? bytes = some v) :
    v.depth < maxDepth := by
  obtain ⟨s, -, htext⟩ := Option.bind_eq_some_iff.1 h
  obtain ⟨w, hw, rfl⟩ := Option.map_eq_some_iff.1 htext
  obtain ⟨ts, -, hparse⟩ := Option.bind_eq_some_iff.1 hw
  have hstart : (ParseState.within [] .value).Nested maxDepth := trivial
  exact Nat.lt_of_le_of_lt (depth_canonical_le w)
    (depth_lt_of_parseFrom (by decide) ts hstart hparse)

end ProviderLink.Json
