import Mathlib.Data.List.Induction
import Triage.Text.Wrap

namespace Triage.Wrap

/-! ## Ways to fill lines -/

/-- How wide the fragments are on a line, with the spaces between them. -/
def lineWidth : List Fragment → Nat
  | [] => 0
  | [fragment] => fragment.width
  | fragment :: next :: rest => fragment.width + fragment.spaces + lineWidth (next :: rest)

/-- How wide the fragments are with all their spaces. -/
def fullWidth : List Fragment → Nat
  | [] => 0
  | fragment :: rest => fragment.width + fragment.spaces + fullWidth rest

theorem lineWidth_cons (fragment : Fragment) (line : List Fragment) :
    lineWidth (fragment :: line) =
      lineWidth line + fragment.width + (if line.isEmpty then 0 else fragment.spaces) := by
  cases line with
  | nil => simp [lineWidth]
  | cons next rest =>
      simp only [lineWidth, List.isEmpty_cons, Bool.false_eq_true, if_false]
      omega

theorem lineWidth_append {first second : List Fragment} (filled : second ≠ []) :
    lineWidth (first ++ second) = fullWidth first + lineWidth second := by
  induction first with
  | nil => simp [fullWidth]
  | cons fragment rest induction =>
      have more : (rest ++ second).isEmpty = false := by simp [filled]
      rw [List.cons_append, lineWidth_cons, induction, more]
      simp only [fullWidth, Bool.false_eq_true, if_false]
      omega

/-- What a line costs that holds these fragments. -/
def costOf (room : Nat) (isLast : Bool) (line : List Fragment) : Nat :=
  lineCost room isLast (line.length == 1) (lineWidth line)

/-- What all lines cost, the last one first. -/
def cost (room : Nat) (isLast : Bool) : List (List Fragment) → Nat
  | [] => 0
  | line :: before => cost room false before + costOf room isLast line

theorem cost_append (room : Nat) (isLast : Bool) (after before : List (List Fragment)) :
    cost room isLast (after ++ before) =
      cost room isLast after + cost room (isLast && after.isEmpty) before := by
  induction after generalizing isLast with
  | nil => simp [cost]
  | cons line rest induction =>
      have later := induction false
      simp only [Bool.false_and] at later
      simp only [List.cons_append, cost, later, List.isEmpty_cons, Bool.and_false]
      omega

/-- The lines, the last one first, hold these fragments, and none of them is empty. -/
structure Fills (fragments : List Fragment) (lines : List (List Fragment)) : Prop where
  whole : lines.reverse.flatten = fragments
  filled : ∀ line ∈ lines, line ≠ []

theorem fills_cons {fragments line : List Fragment} {before : List (List Fragment)}
    (fills : Fills fragments before) (filled : line ≠ []) :
    Fills (fragments ++ line) (line :: before) := by
  refine ⟨?_, List.forall_mem_cons.mpr ⟨filled, fills.filled⟩⟩
  rw [List.reverse_cons, List.flatten_append, fills.whole, List.flatten_singleton]

/-- No other way to fill lines with the fragments costs less. -/
structure Best (room : Nat) (isLast : Bool) (fragments : List Fragment) (layout : Layout) :
    Prop extends Fills fragments layout.lines where
  cost_eq : layout.cost = cost room isLast layout.lines
  least : ∀ lines, Fills fragments lines → layout.cost ≤ cost room isLast lines

/-! ## The search for the best layout -/

/-- A best layout for each initial part of what is laid out so far, the longest part first. -/
inductive Tabled (room : Nat) : List Fragment → List Layout → Prop
  | start : Tabled room [] [⟨0, []⟩]
  | grow {fragment : Fragment} {done : List Fragment} {layout : Layout} {layouts : List Layout}
      (best : Best room false (fragment :: done).reverse layout)
      (earlier : Tabled room done layouts) :
      Tabled room (fragment :: done) (layout :: layouts)

variable {room : Nat} {isLast : Bool} {done : List Fragment} {layouts : List Layout}

/-- Best among the layouts whose last line starts with one of the fragments that are done and
ends with the given ones. -/
structure Ends (room : Nat) (isLast : Bool) (done line : List Fragment) (layout : Layout) :
    Prop extends Fills (done.reverse ++ line) layout.lines where
  cost_eq : layout.cost = cost room isLast layout.lines
  least : ∀ fragments taken before, fragments ++ taken = done.reverse → taken ≠ [] →
    Fills fragments before → layout.cost ≤ cost room isLast ((taken ++ line) :: before)

section Ends

variable {fragment : Fragment} {line : List Fragment} {layout best : Layout}

/-- A last line that starts in what is done is the nearest fragment, or has more before it. -/
theorem taken_cases {fragments taken : List Fragment}
    (whole : fragments ++ taken = (fragment :: done).reverse) (nonempty : taken ≠ []) :
    (taken = [fragment] ∧ fragments = done.reverse) ∨
      ∃ more, more ≠ [] ∧ taken = more ++ [fragment] ∧ fragments ++ more = done.reverse := by
  rcases List.eq_nil_or_concat taken with rfl | ⟨more, last, rfl⟩
  · exact absurd rfl nonempty
  · rw [List.concat_eq_append] at whole ⊢
    rw [List.reverse_cons, ← List.append_assoc] at whole
    rcases List.append_inj' whole rfl with ⟨same, isLast⟩
    cases isLast
    cases more with
    | nil => exact .inl ⟨rfl, by simpa using same⟩
    | cons first rest => exact .inr ⟨first :: rest, by simp, rfl, same⟩

/-- The last line may start with the nearest fragment. -/
theorem Ends.here (head : Best room false done.reverse layout)
    (least : ∀ fragments taken before, fragments ++ taken = done.reverse → taken ≠ [] →
      Fills fragments before → layout.cost + costOf room isLast (fragment :: line) ≤
        cost room isLast ((taken ++ fragment :: line) :: before)) :
    Ends room isLast (fragment :: done) line
      ⟨layout.cost + costOf room isLast (fragment :: line),
        (fragment :: line) :: layout.lines⟩ where
  toFills := by
    have fills := fills_cons head.toFills (List.cons_ne_nil fragment line)
    rwa [List.append_cons, ← List.reverse_cons] at fills
  cost_eq := by rw [head.cost_eq, cost]
  least fragments taken before whole nonempty fills := by
    rcases taken_cases whole nonempty with ⟨rfl, rfl⟩ | ⟨more, filled, rfl, others⟩
    · exact Nat.add_le_add_right (head.least before fills) _
    · rw [List.append_assoc]
      exact least fragments more before others filled fills

/-- It may start further back. -/
theorem Ends.longer (head : Best room false done.reverse layout)
    (ends : Ends room isLast done (fragment :: line) best)
    (better : best.cost ≤ layout.cost + costOf room isLast (fragment :: line)) :
    Ends room isLast (fragment :: done) line best where
  toFills := by
    have fills := ends.toFills
    rwa [List.append_cons, ← List.reverse_cons] at fills
  cost_eq := ends.cost_eq
  least fragments taken before whole nonempty fills := by
    rcases taken_cases whole nonempty with ⟨rfl, rfl⟩ | ⟨more, filled, rfl, others⟩
    · exact Nat.le_trans better (Nat.add_le_add_right (head.least before fills) _)
    · rw [List.append_assoc]
      exact ends.least fragments more before others filled fills

theorem Ends.isBest (ends : Ends room isLast (fragment :: done) [] best) :
    Best room isLast (fragment :: done).reverse best where
  toFills := by simpa using ends.toFills
  cost_eq := ends.cost_eq
  least lines fills := by
    have whole := fills.whole
    cases lines with
    | nil => simp at whole
    | cons line before =>
        rw [List.reverse_cons, List.flatten_append, List.flatten_singleton] at whole
        have least := ends.least _ line before whole (fills.filled line List.mem_cons_self)
          ⟨rfl, fun other member => fills.filled other (List.mem_cons_of_mem _ member)⟩
        rwa [List.append_nil] at least

end Ends

theorem bestFrom_ends (tabled : Tabled room done layouts) (fragment : Fragment)
    (line : List Fragment) :
    ∃ best, bestFrom room isLast line (lineWidth line) (fragment :: done) layouts = some best ∧
      Ends room isLast (fragment :: done) line best := by
  induction tabled generalizing fragment line with
  | start =>
      have head : Best room false ([] : List Fragment).reverse ⟨0, []⟩ :=
        ⟨⟨rfl, by simp⟩, rfl, fun _ _ => Nat.zero_le _⟩
      refine ⟨⟨0 + costOf room isLast (fragment :: line), (fragment :: line) :: []⟩, ?_,
        Ends.here head fun fragments taken before whole nonempty _ => ?_⟩
      · simp only [bestFrom, ← lineWidth_cons]
        cases line <;> rfl
      · exact absurd (List.append_eq_nil_iff.mp whole).2 nonempty
  | @grow next done layout layouts best earlier induction =>
      rcases induction next (fragment :: line) with ⟨longer, found, ends⟩
      have here : lineCost room isLast line.isEmpty (lineWidth (fragment :: line)) =
          costOf room isLast (fragment :: line) := by cases line <;> rfl
      simp only [bestFrom, ← lineWidth_cons, found, here]
      by_cases better : longer.cost ≤ layout.cost + costOf room isLast (fragment :: line)
      · exact ⟨longer, if_pos better, ends.longer best better⟩
      · refine ⟨_, if_neg better, Ends.here best fun parts taken before whole filled fills => ?_⟩
        have least := ends.least parts taken before whole filled fills
        omega

/-- The whole search comes to a best layout. -/
theorem layoutFrom_best (tabled : Tabled room done layouts) {rest : List Fragment}
    (filled : rest ≠ []) :
    ∃ best others, layoutFrom room done layouts rest = best :: others ∧
      Best room true (done.reverse ++ rest) best := by
  induction rest generalizing done layouts with
  | nil => exact absurd rfl filled
  | cons fragment rest induction =>
      obtain ⟨best, found, ends⟩ : ∃ best,
          bestFrom room rest.isEmpty [] 0 (fragment :: done) layouts = some best ∧
            Ends room rest.isEmpty (fragment :: done) [] best := bestFrom_ends tabled fragment []
      simp only [layoutFrom, found]
      rw [List.append_cons, ← List.reverse_cons]
      cases rest with
      | nil => exact ⟨best, layouts, rfl, by simpa using ends.isBest⟩
      | cons next more => exact induction (.grow ends.isBest tabled) (List.cons_ne_nil next more)

theorem layout_best {fragments : List Fragment} (filled : fragments ≠ []) :
    ∃ best, layout room fragments = best.lines.reverse ∧ Best room true fragments best := by
  rcases layoutFrom_best .start filled with ⟨best, others, found, isBest⟩
  exact ⟨best, by rw [layout, found], isBest⟩

/-- It does not pay to divide a line of a best layout in two. -/
theorem Best.undivided {fragments front back : List Fragment} {best : Layout}
    (isBest : Best room true fragments best) {after before : List (List Fragment)}
    (parts : best.lines = after ++ (front ++ back) :: before) (frontFilled : front ≠ [])
    (backFilled : back ≠ []) :
    costOf room after.isEmpty (front ++ back) ≤
      costOf room false front + costOf room after.isEmpty back := by
  have fills : Fills fragments (after ++ back :: front :: before) := by
    refine ⟨?_, fun line member => ?_⟩
    · rw [← isBest.whole, parts]
      simp
    · have old := isBest.filled
      rw [parts] at old
      rcases List.mem_append.mp member with isAfter | member
      · exact old line (List.mem_append_left _ isAfter)
      rcases List.mem_cons.mp member with rfl | member
      · exact backFilled
      rcases List.mem_cons.mp member with rfl | member
      · exact frontFilled
      · exact old line (List.mem_append_right _ (List.mem_cons_of_mem _ member))
  have least := isBest.least _ fills
  rw [isBest.cost_eq, parts, cost_append, cost_append] at least
  simp only [cost, Bool.true_and] at least
  omega

/-! ## How wide a line gets -/

/-- How far a line may reach beyond the room, where a shorter line would leave too large a
gap. -/
def overrun (room : Nat) : Nat :=
  if room ≤ 27 then 0 else (1000 + room * room) / 1250

/-- Two parts of an overrun that a division would not do away with cheaply. -/
theorem add_le_overrun {first second : Nat}
    (cheap : first * 2500 ≤ 1000 + max (room * room) 25)
    (cheapToo : second * 2500 ≤ 1000 + max (room * room) 25) : first + second ≤ overrun room := by
  have small : room ≤ 27 → room * room ≤ 729 := fun narrow => Nat.mul_le_mul narrow narrow
  have large : 28 ≤ room → 784 ≤ room * room := fun broad => Nat.mul_le_mul broad broad
  unfold overrun
  split <;> omega

theorem le_overrun {excess : Nat}
    (cheap : excess * 2500 ≤ 1000 + (max (room * room) 25 + max (room * room) 25)) :
    excess ≤ overrun room := by
  have small : room ≤ 27 → room * room ≤ 729 := fun narrow => Nat.mul_le_mul narrow narrow
  have large : 28 ≤ room → 784 ≤ room * room := fun broad => Nat.mul_le_mul broad broad
  unfold overrun
  split <;> omega

theorem costOf_over {line : List Fragment} (wide : room < lineWidth line) (roomy : 0 < room) :
    costOf room isLast line = 1000 + (lineWidth line - room) * 2500 := by
  have same : max room 1 = room := by omega
  simp only [costOf, lineCost, same, if_pos wide]

/-- A line that fits costs its gap at most, or what a short last line costs. -/
theorem costOf_within {line : List Fragment} (fits : lineWidth line ≤ room) (roomy : 0 < room) :
    costOf room isLast line ≤ 1000 + max (room * room) 25 := by
  have same : max room 1 = room := by omega
  have gap : (room - lineWidth line) * (room - lineWidth line) ≤ room * room :=
    Nat.mul_le_mul (Nat.sub_le _ _) (Nat.sub_le _ _)
  simp only [costOf, lineCost, same, if_neg (Nat.not_lt.mpr fits)]
  split
  · omega
  · split <;> omega

/-- A line that is too wide has a first fragment that reaches beyond the room. -/
theorem exists_reaching {line : List Fragment} (wide : room < lineWidth line) :
    ∃ front fragment back, line = front ++ fragment :: back ∧ lineWidth front ≤ room ∧
      room < lineWidth (front ++ [fragment]) := by
  induction line using List.reverseRecOn with
  | nil => simp [lineWidth] at wide
  | append_singleton front last induction =>
      by_cases before : room < lineWidth front
      · rcases induction before with ⟨earlier, fragment, back, rfl, fits, reaches⟩
        exact ⟨earlier, fragment, back ++ [last], by simp, fits, reaches⟩
      · exact ⟨front, last, [], rfl, by omega, wide⟩

/-- Two parts that fit make no line that reaches far beyond the room, unless it pays to divide
it there. -/
theorem lineWidth_append_le {front back : List Fragment} (roomy : 0 < room)
    (frontFits : lineWidth front ≤ room) (backFits : lineWidth back ≤ room)
    (undivided : costOf room isLast (front ++ back) ≤
      costOf room false front + costOf room isLast back) :
    lineWidth (front ++ back) ≤ room + overrun room := by
  by_cases within : lineWidth (front ++ back) ≤ room
  · omega
  have frontCost : costOf room false front ≤ _ := costOf_within frontFits roomy
  have backCost : costOf room isLast back ≤ _ := costOf_within backFits roomy
  rw [costOf_over (Nat.lt_of_not_le within) roomy] at undivided
  have small : lineWidth (front ++ back) - room ≤ overrun room := le_overrun (by omega)
  omega

/-- Fragments that fit one by one make no line that reaches far beyond the room, unless it pays
to divide it. -/
theorem lineWidth_le {line : List Fragment} (roomy : 0 < room)
    (fits : ∀ fragment ∈ line, fragment.width ≤ room)
    (undivided : ∀ front back, line = front ++ back → front ≠ [] → back ≠ [] →
      costOf room isLast line ≤ costOf room false front + costOf room isLast back) :
    lineWidth line ≤ room + overrun room := by
  by_cases within : lineWidth line ≤ room
  · omega
  have wide : room < lineWidth line := by omega
  rcases exists_reaching wide with ⟨front, fragment, back, rfl, frontFits, reaches⟩
  have fragmentFits : fragment.width ≤ room := fits fragment (by simp)
  have frontFilled : front ≠ [] := by
    rintro rfl
    simp only [List.nil_append, lineWidth] at reaches
    omega
  have first := undivided front (fragment :: back) rfl frontFilled (List.cons_ne_nil fragment back)
  -- Either the rest fits on a line of its own, or the first fragment of it is all that a second
  -- division leaves of the overrun.
  by_cases restFits : lineWidth (fragment :: back) ≤ room
  · exact lineWidth_append_le roomy frontFits restFits first
  · have whole : lineWidth (front ++ fragment :: back) =
        fullWidth front + lineWidth (fragment :: back) :=
      lineWidth_append (List.cons_ne_nil fragment back)
    have frontCost : costOf room false front ≤ _ := costOf_within frontFits roomy
    have restCost : costOf room isLast (fragment :: back) = _ :=
      costOf_over (Nat.lt_of_not_le restFits) roomy
    have backFilled : back ≠ [] := by
      rintro rfl
      exact restFits fragmentFits
    have second := undivided (front ++ [fragment]) back (by simp) (by simp) backFilled
    have reachesCost : costOf room false (front ++ [fragment]) = _ := costOf_over reaches roomy
    have reachesWidth : lineWidth (front ++ [fragment]) = fullWidth front + fragment.width :=
      lineWidth_append (List.cons_ne_nil fragment [])
    have restWidth : lineWidth (fragment :: back) =
        fragment.width + fragment.spaces + lineWidth back := by
      rw [← List.singleton_append, lineWidth_append backFilled]
      simp [fullWidth]
    rw [costOf_over wide roomy] at first second
    -- The end of the line fits: two lines that reach beyond the room are cheaper than one.
    have backFits : lineWidth back ≤ room := by
      by_contra backWide
      have backCost : costOf room isLast back = _ :=
        costOf_over (Nat.lt_of_not_le backWide) roomy
      omega
    have backCost : costOf room isLast back ≤ _ := costOf_within backFits roomy
    have small : fullWidth front + (fragment.spaces + lineWidth back) ≤ overrun room :=
      add_le_overrun (by omega) (by omega)
    omega

/-- The layout holds the fragments that it was given, on lines that do not reach far beyond the
room. -/
theorem layout_within {fragments : List Fragment} (roomy : 0 < room)
    (fits : ∀ fragment ∈ fragments, fragment.width ≤ room) :
    ∀ line ∈ layout room fragments,
      (∀ part ∈ line, part ∈ fragments) ∧ lineWidth line ≤ room + overrun room := by
  intro line member
  by_cases filled : fragments = []
  · subst filled
    cases member
  obtain ⟨best, found, isBest⟩ : ∃ best, layout room fragments = best.lines.reverse ∧
      Best room true fragments best := layout_best filled
  have isLine : line ∈ best.lines := by simpa [found] using member
  have drawn : ∀ part ∈ line, part ∈ fragments := fun part isPart => by
    rw [← isBest.whole]
    exact List.mem_flatten.mpr ⟨line, List.mem_reverse.mpr isLine, isPart⟩
  rcases List.append_of_mem isLine with ⟨after, before, parts⟩
  have undivided : ∀ front back, line = front ++ back → front ≠ [] → back ≠ [] →
      costOf room after.isEmpty line ≤
        costOf room false front + costOf room after.isEmpty back := by
    rintro front back rfl frontFilled backFilled
    exact isBest.undivided parts frontFilled backFilled
  exact ⟨drawn, lineWidth_le roomy (fun part isPart => fits part (drawn part isPart)) undivided⟩

end Triage.Wrap
