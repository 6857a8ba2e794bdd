import Mathlib.Data.List.Infix
import AssistantEngine.Settings.Environment

/-!
References to variables, replaced in one pass. Where a reference begins, its expansion takes its
place and the pass goes on behind it; every other character stays. So what a reference expands to is
never looked at again, and a text without references is left as it is.
-/

namespace AssistantEngine

namespace Environment

variable {environment : Environment} {expression text rest out : List Char} {character : Char}

/-- What opens a reference. -/
def opening : List Char := ['$', '\x7b']

/-- A reference to something begins the text. -/
def BeginsReference (text : List Char) : Prop :=
  ∃ expression rest, expression ≠ [] ∧ '\x7d' ∉ expression ∧ text = reference expression ++ rest

theorem reference_append (expression rest : List Char) :
    reference expression ++ rest = '$' :: '\x7b' :: (expression ++ '\x7d' :: rest) := by
  simp [reference]

/-! ## Inside of a reference -/

theorem substituteChars_closed (read : List Char) (inside : '\x7d' ∉ expression) :
    substituteChars environment (some read) (expression ++ '\x7d' :: rest) =
      expansion environment (read.reverse ++ expression) ++
        substituteChars environment none rest := by
  induction expression generalizing read with
  | nil => simp [substituteChars]
  | cons character expression induction =>
      rw [List.mem_cons, not_or] at inside
      rw [List.cons_append, substituteChars.eq_6 _ _ _ _ fun same => inside.1 same.symm,
        induction _ inside.2]
      simp

theorem substituteChars_unclosed (read : List Char) (inside : '\x7d' ∉ text) :
    substituteChars environment (some read) text = opening ++ read.reverse ++ text := by
  induction text generalizing read with
  | nil => simp [substituteChars, opening]
  | cons character text induction =>
      rw [List.mem_cons, not_or] at inside
      rw [substituteChars.eq_6 _ _ _ _ fun same => inside.1 same.symm, induction _ inside.2]
      simp

/-! ## Character by character -/

theorem substituteChars_reference (inside : '\x7d' ∉ expression) :
    substituteChars environment none (reference expression ++ rest) =
      expansion environment expression ++ substituteChars environment none rest := by
  rw [reference_append, substituteChars.eq_3, substituteChars_closed [] inside]
  rfl

theorem substituteChars_cons_of_not_opening (plain : ¬opening <+: character :: rest) :
    substituteChars environment none (character :: rest) =
      character :: substituteChars environment none rest := by
  apply substituteChars.eq_4
  rintro later rfl rfl
  exact plain ⟨later, rfl⟩

/-- A text in which nothing closes a reference stays as it is. -/
theorem substituteChars_of_open (inside : '\x7d' ∉ text) :
    substituteChars environment none text = text := by
  induction text with
  | nil => rfl
  | cons character text induction =>
      by_cases opens : opening <+: character :: text
      · obtain ⟨rest, same⟩ := opens
        rw [← same] at inside ⊢
        exact substituteChars_unclosed [] fun closes => inside (List.mem_append_right _ closes)
      · rw [substituteChars_cons_of_not_opening opens,
          induction fun closes => inside (List.mem_cons_of_mem _ closes)]

/-- A character with which no reference begins stays. -/
theorem substituteChars_cons (plain : ¬BeginsReference (character :: rest)) :
    substituteChars environment none (character :: rest) =
      character :: substituteChars environment none rest := by
  by_cases opens : opening <+: character :: rest
  · obtain ⟨later, whole⟩ := opens
    obtain ⟨rfl, rfl⟩ : '$' = character ∧ '\x7b' :: later = rest := List.cons.inj whole
    -- What was opened is never closed, or it is closed at once.
    by_cases closes : '\x7d' ∈ later
    · obtain ⟨expression, later, rfl, inside⟩ := List.eq_append_cons_of_mem closes
      have nothing : expression = [] :=
        by_contra fun something => plain ⟨expression, later, something, inside, by
          rw [reference_append]⟩
      subst nothing
      rfl
    · have behind : '\x7d' ∉ '\x7b' :: later := by simpa using closes
      rw [substituteChars_of_open behind]
      exact substituteChars_unclosed [] closes
  · exact substituteChars_cons_of_not_opening opens

/-! ## The pass -/

/-- References are replaced one after the other, each where it begins first: the pass goes on behind
a reference, and else behind a character. -/
inductive Replaced (environment : Environment) : List Char → List Char → Prop where
  | nil : Replaced environment [] []
  | reference {expression rest out : List Char} (something : expression ≠ [])
      (inside : '\x7d' ∉ expression) (later : Replaced environment rest out) :
      Replaced environment (reference expression ++ rest) (expansion environment expression ++ out)
  | character {character : Char} {rest out : List Char}
      (plain : ¬BeginsReference (character :: rest)) (later : Replaced environment rest out) :
      Replaced environment (character :: rest) (character :: out)

theorem Replaced.eq_substituteChars (replaced : Replaced environment text out) :
    substituteChars environment none text = out := by
  induction replaced with
  | nil => rfl
  | reference something inside later induction =>
      rw [substituteChars_reference inside, induction]
  | character plain later induction => rw [substituteChars_cons plain, induction]

theorem replaced_substituteChars (text : List Char) :
    Replaced environment text (substituteChars environment none text) := by
  induction length : text.length using Nat.strongRecOn generalizing text with
  | ind size induction =>
      subst length
      cases text with
      | nil => exact .nil
      | cons character rest =>
          by_cases begins : BeginsReference (character :: rest)
          · obtain ⟨expression, later, something, inside, same⟩ := begins
            rw [same] at induction ⊢
            rw [substituteChars_reference inside]
            refine .reference something inside (induction _ ?_ later rfl)
            simp only [reference_append, List.length_cons, List.length_append]
            omega
          · rw [substituteChars_cons begins]
            exact .character begins (induction _ (Nat.lt_succ_self _) rest rfl)

/-- Going through a text replaces its references, leftmost first and none within another. -/
theorem replaced_iff :
    Replaced environment text out ↔ substituteChars environment none text = out :=
  ⟨Replaced.eq_substituteChars, fun same => same ▸ replaced_substituteChars text⟩

/-- A text in which no reference begins anywhere stays as it is. -/
theorem substituteChars_eq_self (plain : ∀ later, later <:+ text → ¬BeginsReference later) :
    substituteChars environment none text = text := by
  induction text with
  | nil => rfl
  | cons character text induction =>
      rw [substituteChars_cons (plain _ List.suffix_rfl),
        induction fun later ends => plain later (ends.trans (List.suffix_cons _ _))]

/-- What has no opening stays in front of a reference. -/
theorem substituteChars_append_reference {before : List Char} (closed : ¬opening <:+: before) :
    substituteChars environment none (before ++ reference expression ++ rest) =
      before ++ substituteChars environment none (reference expression ++ rest) := by
  induction before with
  | nil => rfl
  | cons character before induction =>
      rw [List.infix_cons_iff, not_or] at closed
      have plain : ¬opening <+: character :: (before ++ (reference expression ++ rest)) := by
        rintro ⟨later, whole⟩
        obtain ⟨rfl, behind⟩ := List.cons.inj whole
        -- The next character is in front of the reference too, or is its first one.
        cases before with
        | nil => cases (List.cons.inj behind).1
        | cons next before =>
            obtain ⟨rfl, -⟩ := List.cons.inj behind
            exact closed.1 ⟨before, rfl⟩
      rw [List.append_assoc] at induction ⊢
      rw [List.cons_append, substituteChars_cons_of_not_opening plain, induction closed.2]
      rfl

/-! ## Names and defaults -/

/-- What parts a name from a default. -/
def parting : List Char := [':', '-']

theorem splitDefault_of_absent {name : List Char} (absent : ¬parting <:+: name) :
    splitDefault name = (name, none) := by
  induction name with
  | nil => rfl
  | cons character name induction =>
      rw [List.infix_cons_iff, not_or] at absent
      rw [splitDefault.eq_2, induction absent.2]
      rintro later rfl rfl
      exact absent.1 ⟨later, rfl⟩

theorem splitDefault_append {name : List Char} (first : ¬parting <:+: name)
    (otherwise : List Char) :
    splitDefault (name ++ parting ++ otherwise) = (name, some otherwise) := by
  induction name with
  | nil => rfl
  | cons character name induction =>
      rw [List.infix_cons_iff, not_or] at first
      rw [List.cons_append, List.cons_append, splitDefault.eq_2, induction first.2]
      rintro later rfl same
      cases name with
      | nil => cases (List.cons.inj same).1
      | cons next name =>
          obtain ⟨rfl, -⟩ := List.cons.inj same
          exact first.1 ⟨name, rfl⟩

theorem exists_first {phrase text : List Char} (something : phrase ≠ [])
    (occurs : phrase <:+: text) :
    ∃ before after, text = before ++ phrase ++ after ∧ ¬phrase <:+: before := by
  induction text with
  | nil => exact absurd (List.infix_nil.mp occurs) something
  | cons character text induction =>
      by_cases begins : phrase <+: character :: text
      · obtain ⟨after, same⟩ := begins
        exact ⟨[], after, same.symm, fun within => something (List.infix_nil.mp within)⟩
      · obtain ⟨before, after, rfl, absent⟩ :=
          induction ((List.infix_cons_iff.mp occurs).resolve_left begins)
        refine ⟨character :: before, after, rfl, fun within => ?_⟩
        rcases List.infix_cons_iff.mp within with here | later
        · exact begins (here.trans ⟨phrase ++ after, by simp⟩)
        · exact absent later

/-- What the expression between the braces of a reference stands for. -/
inductive Expands (environment : Environment) : String → String → Prop where
  | nothing : Expands environment "" "$\x7b\x7d"
  | defaulted {name otherwise : String} (first : ¬":-".toList <:+: name.toList) :
      Expands environment (name ++ ":-" ++ otherwise) ((environment.value? name).getD otherwise)
  | plain {name : String} (something : name ≠ "") (alone : ¬":-".toList <:+: name.toList) :
      Expands environment name ((environment.value? name).getD ("$\x7b" ++ name ++ "\x7d"))

theorem Expands.toList_eq {expression expanded : String}
    (expands : Expands environment expression expanded) :
    expanded.toList = expansion environment expression.toList := by
  cases expands with
  | nothing => rfl
  | @defaulted name otherwise first =>
      have nonempty : (name ++ ":-" ++ otherwise).toList ≠ [] := by simp
      have parts : splitDefault (name ++ ":-" ++ otherwise).toList =
          (name.toList, some otherwise.toList) := by
        rw [String.toList_append, String.toList_append]
        exact splitDefault_append first _
      simp only [expansion, parts, List.isEmpty_iff, nonempty, if_false, String.ofList_toList]
      cases environment.value? name <;> rfl
  | plain something alone =>
      have nonempty : expression.toList ≠ [] := by simpa using something
      simp only [expansion, splitDefault_of_absent alone, List.isEmpty_iff, nonempty, if_false,
        String.ofList_toList]
      cases environment.value? expression with
      | some value => rfl
      | none => simp [reference]

theorem exists_expands (environment : Environment) (expression : String) :
    ∃ expanded, Expands environment expression expanded := by
  by_cases nothing : expression = ""
  · subst nothing
    exact ⟨_, .nothing⟩
  · by_cases parted : ":-".toList <:+: expression.toList
    · obtain ⟨name, otherwise, same, first⟩ := exists_first (by simp) parted
      have split : expression = String.ofList name ++ ":-" ++ String.ofList otherwise := by
        apply String.toList_inj.mp
        simpa using same
      rw [split]
      exact ⟨_, .defaulted (by simpa using first)⟩
    · exact ⟨_, .plain nothing parted⟩

/-! ## Variables -/

theorem append_equals_prefix_iff {name key value : List Char} (named : '=' ∉ key)
    (proper : '=' ∉ name) : name ++ ['='] <+: key ++ '=' :: value ↔ name = key := by
  induction name generalizing key with
  | nil => cases key <;> simp_all
  | cons character name induction =>
      rw [List.mem_cons, not_or] at proper
      cases key with
      | nil => simp_all [List.cons_prefix_cons, eq_comm]
      | cons first key =>
          rw [List.mem_cons, not_or] at named
          rw [List.cons_append, List.cons_append, List.cons_prefix_cons, induction named.2 proper.2,
            List.cons.injEq]

/-- A text of the environment has the variable of the name in front of its `=`. -/
theorem without?_eq {name : String} {entry : String × String} (named : '=' ∉ entry.1.toList)
    (proper : '=' ∉ name.toList) :
    Text.without? (name ++ "=") (entry.1 ++ "=" ++ entry.2) =
      if name = entry.1 then some entry.2 else none := by
  have begins : (name ++ "=").toList <+: (entry.1 ++ "=" ++ entry.2).toList ↔ name = entry.1 := by
    rw [← String.toList_inj]
    simpa using append_equals_prefix_iff named proper
  unfold Text.without?
  by_cases same : name = entry.1
  · rw [if_pos (List.isPrefixOf_iff_prefix.mpr (begins.mpr same)), if_pos same]
    subst same
    rw [String.toList_append, ← String.length_toList, List.drop_left, String.ofList_toList]
  · rw [if_neg (fun within => same (begins.mp (List.isPrefixOf_iff_prefix.mp within))),
      if_neg same]

/-- Variables have names, which have no `=` in them. -/
def Named (environment : Environment) : Prop :=
  ∀ entry ∈ environment, entry.1 ≠ "" ∧ '=' ∉ entry.1.toList

/-- A name without `=` finds the variable that has this name. -/
theorem Named.value?_eq (named : Named environment) {name : String} (proper : '=' ∉ name.toList) :
    environment.value? name = Catalog.find? environment name := by
  unfold value?
  induction environment with
  | nil => split <;> rfl
  | cons entry environment induction =>
      obtain ⟨⟨something, keyed⟩, named⟩ := List.forall_mem_cons.mp named
      rw [List.findSome?_cons, without?_eq keyed proper]
      by_cases same : name = entry.1
      · subst same
        simp [Catalog.find?, something]
      · rw [if_neg same, induction named]
        simp [Catalog.find?, Ne.symm same]

/-! ## Texts -/

theorem Expands.unique {expression expanded other : String}
    (expands : Expands environment expression expanded)
    (also : Expands environment expression other) : expanded = other :=
  String.toList_inj.mp (expands.toList_eq.trans also.toList_eq.symm)

theorem toList_substitute (text : String) :
    (substitute environment text).toList = substituteChars environment none text.toList := by
  rw [substitute, String.toList_ofList]

/-- A text around a reference. -/
theorem toList_around (front expression rest : String) :
    (front ++ "$\x7b" ++ expression ++ "\x7d" ++ rest).toList =
      front.toList ++ reference expression.toList ++ rest.toList := by
  simp [reference]

/-- A text is gone through once, from left to right. Without references it stays as it is. The first
reference gives way to what it stands for, and only the text behind it is gone through any further.
So all references are replaced, leftmost first and none within another. Every expression stands for
one text, and the names of variables stand for their values. -/
theorem substitute_single_pass (environment : Environment) :
    (∀ text : String,
      (∀ front expression rest : String, expression ≠ "" → '\x7d' ∉ expression.toList →
        text ≠ front ++ "$\x7b" ++ expression ++ "\x7d" ++ rest) →
      substitute environment text = text) ∧
    (∀ front expression rest expanded : String, ¬"$\x7b".toList <:+: front.toList →
      '\x7d' ∉ expression.toList → Expands environment expression expanded →
      substitute environment (front ++ "$\x7b" ++ expression ++ "\x7d" ++ rest) =
        front ++ expanded ++ substitute environment rest) ∧
    (∀ expression, ∃! expanded, Expands environment expression expanded) ∧
    (∀ text out : String,
      Replaced environment text.toList out.toList ↔ substitute environment text = out) ∧
    (Named environment → ∀ name : String, '=' ∉ name.toList →
      environment.value? name = Catalog.find? environment name) := by
  refine ⟨?_, ?_, ?_, ?_, fun named _ proper => named.value?_eq proper⟩
  · intro text plain
    apply String.toList_inj.mp
    rw [toList_substitute]
    apply substituteChars_eq_self
    rintro later ⟨front, whole⟩ ⟨expression, rest, something, inside, rfl⟩
    apply plain (String.ofList front) (String.ofList expression) (String.ofList rest)
    · simpa using something
    · simpa using inside
    · rw [← String.toList_inj, toList_around, ← whole]
      simp
  · intro front expression rest expanded closed inside expands
    apply String.toList_inj.mp
    rw [toList_substitute, toList_around, substituteChars_append_reference closed,
      substituteChars_reference inside, String.toList_append, String.toList_append,
      expands.toList_eq, toList_substitute, List.append_assoc]
  · intro expression
    obtain ⟨expanded, expands⟩ := exists_expands environment expression
    exact ⟨expanded, expands, fun other also => also.unique expands⟩
  · intro text out
    rw [replaced_iff, ← toList_substitute, String.toList_inj]

/-- The value of a variable looks like a reference, and one reference is not closed. -/
theorem substitute_single_pass_home :
    let environment : Environment := [("EMPTY", ""), ("HOME", "/srv/$\x7bX\x7d")]
    ¬"$\x7b".toList <:+: "$".toList ∧ '\x7d' ∉ "HOME".toList ∧
      Expands environment "HOME" "/srv/$\x7bX\x7d" ∧
      substitute environment "$$\x7bHOME\x7d:$\x7bPORT:-80" = "$/srv/$\x7bX\x7d:$\x7bPORT:-80" ∧
      Named environment ∧ environment.value? "EMPTY" = some "" := by
  intro environment
  obtain ⟨unchanged, replaced, -, -, valued⟩ := substitute_single_pass environment
  have named : Named environment := by simp [Named, environment]
  have home : environment.value? "HOME" = some "/srv/$\x7bX\x7d" :=
    valued named "HOME" (by decide)
  have expands : Expands environment "HOME" "/srv/$\x7bX\x7d" := by
    have plain : Expands environment "HOME" _ := .plain (by decide) (by decide)
    rwa [home] at plain
  have unclosed : substitute environment ":$\x7bPORT:-80" = ":$\x7bPORT:-80" := by
    apply unchanged
    intro front expression rest _ _ same
    have closes : '\x7d' ∈ ":$\x7bPORT:-80".toList := by
      rw [same]
      simp
    revert closes
    decide
  refine ⟨by decide, by decide, expands, ?_, named, valued named "EMPTY" (by decide)⟩
  have whole := replaced "$" "HOME" ":$\x7bPORT:-80" _ (by decide) (by decide) expands
  rw [unclosed] at whole
  exact whole

end Environment
end AssistantEngine
