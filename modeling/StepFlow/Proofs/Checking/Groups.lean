import Mathlib.Data.List.Forall2
import StepFlow.Checking.Program

/-! # Groups of variables

A check puts each variable into the first group of the rules that takes its line, or into the default group if none
does. The report begins with the groups of the rules, in their order and empty, and the program lists its groups as its
variables bring them up. Both are filled by the same step, which adds one name to one group, so they have the same names
in each group, and every variable stands in one group, once.
-/

namespace StepFlow

/-! ## The group of a line -/

/-- A line falls into a group by itself: none of the excluding patterns occurs in it, and one of the others does. -/
def GroupRule.Takes (rule : GroupRule) (line : String) : Prop :=
  (∀ pattern ∈ rule.excluded, Pattern.textOccursIn pattern line = false) ∧
    ∃ pattern ∈ rule.patterns, Pattern.textOccursIn pattern line = true

theorem GroupRule.accepts_iff {rule : GroupRule} {line : String} : rule.accepts line = true ↔ rule.Takes line := by
  simp [accepts, excludes, includes, Takes]

namespace CheckRules

/-- The keys of the groups, in their order. -/
def keys (rules : CheckRules) : List String := rules.groups.map Prod.fst

/-- The group of a line is the first one that takes it, or the default group if none does. -/
inductive IsGroupOf (rules : CheckRules) (line : String) : String → Prop where
  | first {earlier later : List (String × GroupRule)} {key : String} {rule : GroupRule}
      (order : rules.groups = earlier ++ (key, rule) :: later) (passed : ∀ group ∈ earlier, ¬group.2.Takes line)
      (takes : rule.Takes line) : IsGroupOf rules line key
  | default (passed : ∀ group ∈ rules.groups, ¬group.2.Takes line) : IsGroupOf rules line rules.defaultGroup

variable (rules : CheckRules) (line : String)

theorem isGroupOf_classify : rules.IsGroupOf line (rules.classify line) := by
  have refused {group : String × GroupRule} (refuses : (!group.2.accepts line) = true) : ¬group.2.Takes line := by
    rw [← GroupRule.accepts_iff]
    simpa using refuses
  unfold classify
  split
  · rename_i key rule found
    obtain ⟨accepts, earlier, later, order, passed⟩ := List.find?_eq_some_iff_append.mp found
    exact .first order (fun group member => refused (passed group member)) (GroupRule.accepts_iff.mp accepts)
  · rename_i none
    refine .default fun group member => refused ?_
    simpa using List.find?_eq_none.mp none group member

variable {rules line}

theorem IsGroupOf.known {key : String} (isGroup : rules.IsGroupOf line key) :
    key ∈ rules.keys ∨ key = rules.defaultGroup := by
  cases isGroup with
  | first order => exact .inl (by simp [keys, order])
  | default => exact .inr rfl

end CheckRules

/-! ## Filling groups -/

/-- The names in a group, none if there is no such group. -/
def namesIn (groups : List (String × List String)) (key : String) : List String := (groups.lookup key).getD []

/-- Groups with the names of variables added one after another, each to its group. -/
def fillGroups (declared : List Variable) (groups : List (String × List String)) : List (String × List String) :=
  declared.foldl (fun groups var => Program.addToGroup var.group var.name groups) groups

@[simp] theorem namesIn_nil (key : String) : namesIn [] key = [] := rfl

@[simp] theorem namesIn_cons (other : String) (names : List String) (groups : List (String × List String))
    (key : String) : namesIn ((other, names) :: groups) key = if other = key then names else namesIn groups key := by
  rw [namesIn, List.lookup_cons]
  by_cases same : other = key
  · simp [same]
  · rw [beq_eq_false_iff_ne.mpr (Ne.symm same), if_neg same]
    rfl

section AddToGroup

variable (group name : String) (groups : List (String × List String))

/-- A name is added to the end of its group, and to no other one. -/
theorem namesIn_addToGroup (key : String) :
    namesIn (Program.addToGroup group name groups) key =
      namesIn groups key ++ if group = key then [name] else [] := by
  induction groups with
  | nil => simp [Program.addToGroup]
  | cons first rest ih =>
    obtain ⟨other, names⟩ := first
    rw [Program.addToGroup]
    split
    · rename_i same
      by_cases wanted : group = key <;> simp [same, wanted]
    · rename_i differs
      rw [namesIn_cons, namesIn_cons, ih]
      split
      · rename_i wanted
        rw [if_neg fun here => differs (wanted.trans here.symm), List.append_nil]
      · rfl

/-- A group that is new comes after the others. -/
theorem keys_addToGroup :
    (Program.addToGroup group name groups).map Prod.fst =
      if group ∈ groups.map Prod.fst then groups.map Prod.fst else groups.map Prod.fst ++ [group] := by
  induction groups with
  | nil => rfl
  | cons first rest ih =>
    obtain ⟨other, names⟩ := first
    by_cases same : other = group
    · simp [Program.addToGroup, same]
    · rw [Program.addToGroup, if_neg same, List.map_cons, List.map_cons, ih]
      by_cases known : group ∈ rest.map Prod.fst <;> simp [known, Ne.symm same]

/-- All names are kept, and one is added. -/
theorem perm_addToGroup :
    ((Program.addToGroup group name groups).flatMap Prod.snd).Perm (groups.flatMap Prod.snd ++ [name]) := by
  induction groups with
  | nil => exact .refl _
  | cons first rest ih =>
    obtain ⟨other, names⟩ := first
    rw [Program.addToGroup]
    split
    · simp only [List.flatMap_cons, List.append_assoc]
      exact List.perm_append_comm.append_left names
    · simp only [List.flatMap_cons, List.append_assoc]
      exact ih.append_left names

end AddToGroup

section FillGroups

variable (declared : List Variable) (groups : List (String × List String))

/-- The names in a group after filling: those that were there, then those of its variables, in order. -/
theorem namesIn_fillGroups (key : String) :
    namesIn (fillGroups declared groups) key =
      namesIn groups key ++ (declared.filter fun var => var.group == key).map Variable.name := by
  induction declared generalizing groups with
  | nil => simp [fillGroups]
  | cons var rest ih =>
    have step : fillGroups (var :: rest) groups = fillGroups rest (Program.addToGroup var.group var.name groups) := rfl
    rw [step, ih, namesIn_addToGroup]
    by_cases same : var.group = key <;> simp [same]

theorem perm_fillGroups :
    ((fillGroups declared groups).flatMap Prod.snd).Perm (groups.flatMap Prod.snd ++ declared.map Variable.name) := by
  induction declared generalizing groups with
  | nil => simp [fillGroups]
  | cons var rest ih =>
    have added := (perm_addToGroup var.group var.name groups).append_right (rest.map Variable.name)
    rw [List.append_assoc] at added
    exact (ih _).trans added

variable {declared groups}

/-- Where all groups are known, no group is new. -/
theorem keys_fillGroups (known : ∀ var ∈ declared, var.group ∈ groups.map Prod.fst) :
    (fillGroups declared groups).map Prod.fst = groups.map Prod.fst := by
  induction declared generalizing groups with
  | nil => rfl
  | cons var rest ih =>
    obtain ⟨here, later⟩ := List.forall_mem_cons.mp known
    have same : (Program.addToGroup var.group var.name groups).map Prod.fst = groups.map Prod.fst := by
      rw [keys_addToGroup, if_pos here]
    exact (ih (same.symm ▸ later)).trans same

/-- Where one group may be unknown, it comes last as soon as a variable is in it. -/
theorem keys_fillGroups_cases {other : String}
    (known : ∀ var ∈ declared, var.group ∈ groups.map Prod.fst ∨ var.group = other) :
    ((fillGroups declared groups).map Prod.fst = groups.map Prod.fst ∧
        ∀ var ∈ declared, var.group ∈ groups.map Prod.fst) ∨
      ((fillGroups declared groups).map Prod.fst = groups.map Prod.fst ++ [other] ∧ other ∉ groups.map Prod.fst ∧
        ∃ var ∈ declared, var.group = other) := by
  induction declared generalizing groups with
  | nil => exact .inl ⟨rfl, List.forall_mem_nil _⟩
  | cons var rest ih =>
    obtain ⟨here, later⟩ := List.forall_mem_cons.mp known
    have step : fillGroups (var :: rest) groups = fillGroups rest (Program.addToGroup var.group var.name groups) := rfl
    have keys := keys_addToGroup var.group var.name groups
    rw [step]
    by_cases old : var.group ∈ groups.map Prod.fst
    · rw [if_pos old] at keys
      rw [← keys] at later
      rcases ih later with ⟨same, all⟩ | ⟨more, new, used⟩
      · rw [keys] at same all
        exact .inl ⟨same, List.forall_mem_cons.mpr ⟨old, all⟩⟩
      · rw [keys] at more new
        exact .inr ⟨more, new, used.imp fun _ found => ⟨.tail _ found.1, found.2⟩⟩
    · -- The variable brings the group up, so it is known to all that follow.
      obtain rfl := here.resolve_left old
      rw [if_neg old] at keys
      refine .inr ⟨(keys_fillGroups fun other member => ?_).trans keys, old, var, .head _, rfl⟩
      rw [keys]
      simpa using later other member

end FillGroups

/-! ## Reports and programs -/

namespace CheckRules

variable (rules : CheckRules)

/-- The groups of the rules without names. -/
def emptyGroups : List (String × List String) := rules.groups.map fun (key, _) => (key, [])

@[simp] theorem keys_emptyGroups : rules.emptyGroups.map Prod.fst = rules.keys := by
  simp [emptyGroups, keys]

@[simp] theorem namesIn_emptyGroups (key : String) : namesIn rules.emptyGroups key = [] := by
  rw [emptyGroups]
  induction rules.groups with
  | nil => rfl
  | cons group rest ih => rw [List.map_cons, namesIn_cons, ih, ite_self]

@[simp] theorem flatMap_emptyGroups : rules.emptyGroups.flatMap Prod.snd = [] := by
  simp [emptyGroups, List.flatMap_map]

end CheckRules

namespace Program

variable (rules : CheckRules) (registry : Registry) (program : Program)

/-- A check sets the group of each variable and nothing else of it. -/
theorem forall₂_check_variables :
    List.Forall₂ (fun var checked : Variable => checked = { var with group := checked.group } ∧
        rules.IsGroupOf (Check.classifiedLine var) checked.group)
      program.variables (program.check rules registry).1.variables := by
  rw [check, List.forall₂_map_right_iff, List.forall₂_same]
  exact fun var _ => ⟨rfl, rules.isGroupOf_classify _⟩

/-- After a check, each variable is in the first group of the rules that takes its line, or else in the default group.
The report and the program have the same names in each group, those of its variables in order, and every variable once.
The report lists the groups of the rules in order, and after them the default group if it is none of them and a variable
is in it. -/
theorem check_partitions_variables :
    List.Forall₂ (fun var checked : Variable => checked = { var with group := checked.group } ∧
        rules.IsGroupOf (Check.classifiedLine var) checked.group)
      program.variables (program.check rules registry).1.variables ∧
    (∀ key, namesIn (program.check rules registry).2.groups key =
        namesIn (program.check rules registry).1.variablesByGroup key ∧
      namesIn (program.check rules registry).2.groups key =
        ((program.check rules registry).1.variables.filter fun var => var.group == key).map Variable.name) ∧
    ((program.check rules registry).2.groups.flatMap Prod.snd).Perm (program.variables.map Variable.name) ∧
    ((program.check rules registry).1.variablesByGroup.flatMap Prod.snd).Perm (program.variables.map Variable.name) ∧
    ((program.check rules registry).2.groups.map Prod.fst = rules.keys ∧
        (∀ var ∈ (program.check rules registry).1.variables, var.group ∈ rules.keys) ∨
      (program.check rules registry).2.groups.map Prod.fst = rules.keys ++ [rules.defaultGroup] ∧
        rules.defaultGroup ∉ rules.keys ∧
        ∃ var ∈ (program.check rules registry).1.variables, var.group = rules.defaultGroup) := by
  have classified := forall₂_check_variables rules registry program
  have names : (program.check rules registry).1.variables.map Variable.name = program.variables.map Variable.name :=
    List.map_map
  have known : ∀ var ∈ (program.check rules registry).1.variables,
      var.group ∈ rules.emptyGroups.map Prod.fst ∨ var.group = rules.defaultGroup := by
    intro var member
    obtain ⟨original, -, rfl⟩ := List.mem_map.mp member
    rw [rules.keys_emptyGroups]
    exact (rules.isGroupOf_classify _).known
  -- Both lists of groups are filled with the same variables; only what they are filled into differs.
  have report : (program.check rules registry).2.groups =
      fillGroups (program.check rules registry).1.variables rules.emptyGroups := rfl
  have listed : (program.check rules registry).1.variablesByGroup =
      fillGroups (program.check rules registry).1.variables [] := rfl
  rw [report, listed]
  refine ⟨classified, fun key => ⟨?_, ?_⟩, ?_, ?_, ?_⟩
  · rw [namesIn_fillGroups, namesIn_fillGroups, rules.namesIn_emptyGroups, namesIn_nil]
  · rw [namesIn_fillGroups, rules.namesIn_emptyGroups, List.nil_append]
  · simpa [names] using perm_fillGroups (program.check rules registry).1.variables rules.emptyGroups
  · simpa [names] using perm_fillGroups (program.check rules registry).1.variables []
  · simpa only [rules.keys_emptyGroups] using keys_fillGroups_cases known

end Program

end StepFlow
