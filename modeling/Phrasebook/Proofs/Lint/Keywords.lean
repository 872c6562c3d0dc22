import Mathlib.Data.List.Induction
import Mathlib.Data.List.Nodup
import Phrasebook.Language.Lint

/-!
# Keywords that are given twice

The check goes through the keywords once, with those that it has seen and those
that it has reported. What it does with the next keyword is settled by how often
the keyword stood before: a keyword is reported where it stood once before, so
each repeated keyword is reported at its second occurrence and never again. No
other check speaks of repeated keywords, and this one changes nothing about the
other warnings.
-/

namespace Phrasebook
namespace Lint

variable {before seen reported keywords : List String} {k : String}

/-! ## One more keyword -/

/-- What the check keeps of the keywords before. -/
structure Tracks (before seen reported : List String) : Prop where
  seen_iff : ∀ k, k ∈ seen ↔ 1 ≤ before.count k
  reported_iff : ∀ k, k ∈ reported ↔ 2 ≤ before.count k

theorem tracks_nil : Tracks [] [] [] :=
  ⟨by simp, by simp⟩

theorem count_concat (before : List String) (k k' : String) :
    (before ++ [k]).count k' = before.count k' + if k = k' then 1 else 0 := by
  simp [List.count_append, List.count_singleton]

theorem Tracks.first (h : Tracks before seen reported) (hk : k ∉ seen) :
    Tracks (before ++ [k]) (k :: seen) reported where
  seen_iff k' := by
    rw [count_concat, List.mem_cons, h.seen_iff]
    grind
  reported_iff k' := by
    rw [count_concat, h.reported_iff]
    grind [h.seen_iff k]

theorem Tracks.second (h : Tracks before seen reported) (hk : k ∈ seen) :
    Tracks (before ++ [k]) seen (k :: reported) where
  seen_iff k' := by
    rw [count_concat, h.seen_iff]
    grind [h.seen_iff k]
  reported_iff k' := by
    rw [count_concat, List.mem_cons, h.reported_iff]
    grind [h.seen_iff k]

theorem Tracks.later (h : Tracks before seen reported) (hk : k ∈ reported) :
    Tracks (before ++ [k]) seen reported where
  seen_iff k' := by
    rw [count_concat, h.seen_iff]
    grind [h.reported_iff k]
  reported_iff k' := by
    rw [count_concat, h.reported_iff]
    grind [h.reported_iff k]

/-- A keyword is reported just if it stood once before. -/
theorem repeatedFrom_concat (h : Tracks before seen reported)
    (keywords : List String) (k : String) :
    repeatedFrom seen reported (keywords ++ [k]) =
      repeatedFrom seen reported keywords ++
        if (before ++ keywords).count k = 1 then [k] else [] := by
  induction keywords generalizing before seen reported with
  | nil =>
      have hseen := h.seen_iff k
      have hreported := h.reported_iff k
      simp only [List.nil_append, List.append_nil, repeatedFrom,
        List.contains_iff_mem]
      split_ifs <;> grind
  | cons k' ks ih =>
      rw [List.cons_append, repeatedFrom, repeatedFrom, List.append_cons before]
      simp only [List.contains_iff_mem]
      by_cases hseen : k' ∈ seen
      · by_cases hreported : k' ∈ reported
        · simp only [hseen, hreported, if_true]
          exact ih (h.later hreported)
        · simp only [hseen, hreported, if_true, if_false, List.cons_append]
          exact congrArg _ (ih (h.second hseen))
      · simp only [hseen, if_false]
        exact ih (h.first hseen)

/-! ## Second occurrences -/

/-- The keyword stands for the second time at the place. -/
def SecondAt (keywords : List String) (k : String) (place : Nat) : Prop :=
  keywords[place]? = some k ∧ (keywords.take place).count k = 1

/-- The first keyword stands for the second time before the other does. -/
def SecondBefore (keywords : List String) (k k' : String) : Prop :=
  ∃ place place', SecondAt keywords k place ∧ SecondAt keywords k' place' ∧
    place < place'

theorem SecondAt.lt_length {place : Nat} (h : SecondAt keywords k place) :
    place < keywords.length :=
  (List.getElem?_eq_some_iff.mp h.1).1

theorem SecondAt.concat {place : Nat} (h : SecondAt keywords k place)
    (k' : String) :
    SecondAt (keywords ++ [k']) k place := by
  have hplace := h.lt_length
  refine ⟨?_, ?_⟩
  · rw [List.getElem?_append_left hplace]
    exact h.1
  · rw [List.take_append_of_le_length (Nat.le_of_lt hplace)]
    exact h.2

theorem secondAt_length (h : keywords.count k = 1) :
    SecondAt (keywords ++ [k]) k keywords.length :=
  ⟨List.getElem?_concat_length, by rwa [List.take_left]⟩

theorem exists_secondAt (h : 2 ≤ keywords.count k) :
    ∃ place, SecondAt keywords k place := by
  induction keywords using List.reverseRecOn with
  | nil => simp at h
  | append_singleton ks k' ih =>
      by_cases hks : 2 ≤ ks.count k
      · obtain ⟨place, hplace⟩ := ih hks
        exact ⟨place, hplace.concat k'⟩
      · rw [count_concat] at h
        obtain ⟨rfl, hone⟩ : k' = k ∧ ks.count k = 1 := by
          split_ifs at h with heq
          · exact ⟨heq, by omega⟩
          · omega
        exact ⟨ks.length, secondAt_length hone⟩

theorem SecondBefore.concat {a b : String} (h : SecondBefore keywords a b)
    (k : String) :
    SecondBefore (keywords ++ [k]) a b := by
  obtain ⟨i, j, ha, hb, hij⟩ := h
  exact ⟨i, j, ha.concat k, hb.concat k, hij⟩

/-- The keywords that occur at least twice, each once, in the order of their
second occurrences. -/
structure ReportedOnce (keywords reported : List String) : Prop where
  nodup : reported.Nodup
  mem_iff : ∀ k, k ∈ reported ↔ 2 ≤ keywords.count k
  ordered : reported.Pairwise (SecondBefore keywords)

theorem ReportedOnce.concat (h : ReportedOnce keywords reported) (k : String) :
    ReportedOnce (keywords ++ [k])
      (reported ++ if keywords.count k = 1 then [k] else []) := by
  have hordered : reported.Pairwise (SecondBefore (keywords ++ [k])) :=
    h.ordered.imp fun hab => hab.concat k
  by_cases hk : keywords.count k = 1
  · have hnew : k ∉ reported := by
      rw [h.mem_iff]
      omega
    rw [if_pos hk]
    refine ⟨?_, fun k' => ?_, ?_⟩
    · refine List.nodup_append.mpr
        ⟨h.nodup, List.nodup_singleton k, fun a ha b hb => ?_⟩
      rw [List.mem_singleton.mp hb]
      exact ne_of_mem_of_not_mem ha hnew
    · rw [List.mem_append, List.mem_singleton, h.mem_iff, count_concat]
      grind
    · refine List.pairwise_append.mpr
        ⟨hordered, List.pairwise_singleton _ k, ?_⟩
      intro a ha b hb
      obtain ⟨place, hplace⟩ := exists_secondAt ((h.mem_iff a).mp ha)
      rw [List.mem_singleton.mp hb]
      exact ⟨place, keywords.length, hplace.concat k, secondAt_length hk,
        hplace.lt_length⟩
  · rw [if_neg hk, List.append_nil]
    refine ⟨h.nodup, fun k' => ?_, hordered⟩
    rw [h.mem_iff, count_concat]
    grind

theorem reportedOnce_repeatedFrom (keywords : List String) :
    ReportedOnce keywords (repeatedFrom [] [] keywords) := by
  induction keywords using List.reverseRecOn with
  | nil => exact ⟨List.nodup_nil, by simp [repeatedFrom], List.Pairwise.nil⟩
  | append_singleton ks k ih =>
      rw [repeatedFrom_concat tracks_nil, List.nil_append]
      exact ih.concat k

example : repeatedFrom [] []
    ["one", "few", "few", "one", "few"] = ["few", "one"] := by
  decide

/-- One more keyword adds a warning just if it stood once before. -/
theorem duplicates_concat (what : Keyed) (owner : String)
    (keywords : List String) (k : String) :
    duplicates what owner (keywords ++ [k]) = duplicates what owner keywords ++
      if keywords.count k = 1 then [.duplicateKeyword what k owner]
      else [] := by
  rw [duplicates, duplicates, repeatedFrom_concat tracks_nil, List.nil_append,
    List.map_append]
  split <;> rfl

theorem duplicates_eq_nil {what : Keyed} {owner : String} :
    duplicates what owner keywords = [] ↔ keywords.Nodup := by
  have hnone : (∀ k, ¬ 2 ≤ keywords.count k) ↔ keywords.Nodup := by
    rw [List.nodup_iff_count_le_one]
    exact forall_congr' fun k => by omega
  rw [duplicates, List.map_eq_nil_iff, List.eq_nil_iff_forall_not_mem, ← hnone]
  exact forall_congr' fun k =>
    not_congr ((reportedOnce_repeatedFrom keywords).mem_iff k)

/-! ## The check of a language -/

def Warning.isDuplicate : Warning → Bool
  | .duplicateKeyword .. => true
  | _ => false

def contextOwner (c : Context) : String :=
  "context '" ++ c.keyword ++ "'"

def caseOwner (c : Case) : String :=
  "case '" ++ c.keyword ++ "'"

def languageOwner (l : Language) : String :=
  "language '" ++ l.locale ++ "'"

/-- Keywords that are checked together, with what they belong to and the
owner. -/
structure KeywordGroup where
  what : Keyed
  owner : String
  keywords : List String

namespace KeywordGroup

def ofRules (owner : String) (rs : List Rule) : KeywordGroup where
  what := .rule
  owner
  keywords := rs.map (·.keyword)

def warnings (g : KeywordGroup) : List Warning :=
  duplicates g.what g.owner g.keywords

/-- All keywords of a language: those of its contexts, of its cases, and of the
rules of each. -/
def all (l : Language) : List KeywordGroup :=
  [⟨.context, languageOwner l, l.contexts.map (·.keyword)⟩,
    ⟨.case, languageOwner l, l.cases.map (·.keyword)⟩] ++
    l.contexts.map (fun c => ofRules (contextOwner c) c.rules) ++
      l.cases.map fun c => ofRules (caseOwner c) c.rules

end KeywordGroup

def missingFallback (c : Context) : List Warning :=
  if !c.rules.isEmpty && c.fallback?.isNone then
    [.missingFallback c.keyword c.defaultKey]
  else []

/-- The warnings about a language apart from those about keywords. -/
def others (ev : Evaluator) (l : Language) : List Warning :=
  l.contexts.flatMap (fun c =>
    missingFallback c ++ c.rules.flatMap (ruleSources ev (contextOwner c))) ++
    l.cases.flatMap fun c => c.rules.flatMap (ruleSources ev (caseOwner c))

variable {ev : Evaluator} {owner rule text : String} {field : Field}
    {w : Warning}

theorem isDuplicate_of_mem_warnings {g : KeywordGroup} (h : w ∈ g.warnings) :
    w.isDuplicate = true := by
  obtain ⟨k, -, rfl⟩ := List.mem_map.mp h
  rfl

theorem isDuplicate_of_mem_source (h : w ∈ source ev owner rule field text) :
    w.isDuplicate = false := by
  unfold source at h
  split at h
  · exact absurd h List.not_mem_nil
  · split at h
    · obtain ⟨operator, -, rfl⟩ := List.mem_map.mp h
      rfl
    · rw [List.mem_singleton.mp h]
      rfl

theorem isDuplicate_of_mem_ruleSources {r : Rule}
    (h : w ∈ ruleSources ev owner r) :
    w.isDuplicate = false := by
  rcases List.mem_append.mp h with h | h
  · exact isDuplicate_of_mem_source h
  · split at h
    · exact isDuplicate_of_mem_source h
    · exact absurd h List.not_mem_nil

theorem isDuplicate_of_mem_missingFallback {c : Context}
    (h : w ∈ missingFallback c) :
    w.isDuplicate = false := by
  unfold missingFallback at h
  split at h
  · rw [List.mem_singleton.mp h]
    rfl
  · exact absurd h List.not_mem_nil

/-- Which of the warnings are about keywords and which are not, in their
order. -/
structure Splits (ws duplicates others : List Warning) : Prop where
  duplicates : ws.filter Warning.isDuplicate = duplicates
  others : ws.filter (fun w => !w.isDuplicate) = others

namespace Splits

variable {ws ws' ds ds' os os' : List Warning}

theorem of_duplicates (h : ∀ w ∈ ws, w.isDuplicate = true) :
    Splits ws ws [] where
  duplicates := List.filter_eq_self.mpr h
  others := List.filter_eq_nil_iff.mpr fun w hw => by simp [h w hw]

theorem of_others (h : ∀ w ∈ ws, w.isDuplicate = false) : Splits ws [] ws where
  duplicates := List.filter_eq_nil_iff.mpr fun w hw => by simp [h w hw]
  others := List.filter_eq_self.mpr fun w hw => by simp [h w hw]

theorem append (h : Splits ws ds os) (h' : Splits ws' ds' os') :
    Splits (ws ++ ws') (ds ++ ds') (os ++ os') where
  duplicates := by rw [List.filter_append, h.duplicates, h'.duplicates]
  others := by rw [List.filter_append, h.others, h'.others]

theorem flatMap {α : Type} {f d o : α → List Warning}
    (h : ∀ x, Splits (f x) (d x) (o x))
    (xs : List α) : Splits (xs.flatMap f) (xs.flatMap d) (xs.flatMap o) := by
  induction xs with
  | nil => exact ⟨rfl, rfl⟩
  | cons x xs ih => exact (h x).append ih

end Splits

theorem splits_warnings (g : KeywordGroup) : Splits g.warnings g.warnings [] :=
  .of_duplicates fun _ => isDuplicate_of_mem_warnings

theorem splits_rules (ev : Evaluator) (owner : String) (rs : List Rule) :
    Splits (rules ev owner rs) (KeywordGroup.ofRules owner rs).warnings
      (rs.flatMap (ruleSources ev owner)) := by
  have hsources : Splits (rs.flatMap (ruleSources ev owner)) []
      (rs.flatMap (ruleSources ev owner)) := by
    refine .of_others fun w hw => ?_
    obtain ⟨r, -, hw⟩ := List.mem_flatMap.mp hw
    exact isDuplicate_of_mem_ruleSources hw
  have hrules := (splits_warnings (.ofRules owner rs)).append hsources
  rwa [List.append_nil, List.nil_append] at hrules

theorem splits_context (ev : Evaluator) (c : Context) :
    Splits (context ev c)
      (KeywordGroup.ofRules (contextOwner c) c.rules).warnings
      (missingFallback c ++ c.rules.flatMap
        (ruleSources ev (contextOwner c))) :=
  (Splits.of_others fun _ => isDuplicate_of_mem_missingFallback).append
    (splits_rules ev (contextOwner c) c.rules)

theorem splits_case (ev : Evaluator) (c : Case) :
    Splits (case ev c) (KeywordGroup.ofRules (caseOwner c) c.rules).warnings
      (c.rules.flatMap (ruleSources ev (caseOwner c))) :=
  splits_rules ev (caseOwner c) c.rules

theorem splits_language (ev : Evaluator) (l : Language) :
    Splits (language ev l) ((KeywordGroup.all l).flatMap KeywordGroup.warnings)
      (others ev l) := by
  have hcontexts :=
    splits_warnings ⟨.context, languageOwner l, l.contexts.map (·.keyword)⟩
  have hcases :=
    splits_warnings ⟨.case, languageOwner l, l.cases.map (·.keyword)⟩
  have hrules := ((hcontexts.append hcases).append
    (Splits.flatMap (splits_context ev) l.contexts)).append
      (Splits.flatMap (splits_case ev) l.cases)
  rw [KeywordGroup.all, List.flatMap_append, List.flatMap_append,
    List.flatMap_map, List.flatMap_map, List.flatMap_cons,
    List.flatMap_singleton, others]
  exact hrules

theorem KeywordGroup.forall_mem_all {l : Language} :
    (∀ g ∈ KeywordGroup.all l, g.keywords.Nodup) ↔
      (l.contexts.map (·.keyword)).Nodup ∧ (l.cases.map (·.keyword)).Nodup ∧
        (∀ c ∈ l.contexts, (c.rules.map (·.keyword)).Nodup) ∧
        ∀ c ∈ l.cases, (c.rules.map (·.keyword)).Nodup := by
  simp only [KeywordGroup.all, List.forall_mem_append, List.forall_mem_cons,
    List.forall_mem_map, List.not_mem_nil, false_implies, implies_true,
    true_and, KeywordGroup.ofRules, and_assoc]

/-- No keyword is reported just if no list of keywords has one twice. -/
theorem isDuplicate_language_iff {l : Language} :
    (∀ w ∈ language ev l, w.isDuplicate = false) ↔
      ∀ g ∈ KeywordGroup.all l, g.keywords.Nodup := by
  have hfilter : (∀ w ∈ language ev l, w.isDuplicate = false) ↔
      (language ev l).filter Warning.isDuplicate = [] := by
    simp only [List.filter_eq_nil_iff, Bool.not_eq_true]
  rw [hfilter, (splits_language ev l).duplicates, List.flatMap_eq_nil_iff]
  exact forall₂_congr fun g _ => duplicates_eq_nil

/-- Behind the warnings collected before, one more keyword adds at most one, so
each keyword that is given twice in a list is reported exactly once, in the
order of the second occurrences. The check of a language has these warnings for
each list of keywords in it, leaves all other warnings as they are, and reports
no keyword just if the keywords of the contexts, those of the cases, and those
of the rules of each context and each case are different. -/
theorem duplicates_reportedOnce (ev : Evaluator) :
    (∀ (what : Keyed) (owner : String) (collected : List Warning),
      let check := fun keywords => collected ++ duplicates what owner keywords
      check [] = collected ∧
      (∀ keywords k, check (keywords ++ [k]) =
        check keywords ++ if keywords.count k = 1
          then [.duplicateKeyword what k owner] else []) ∧
      ∀ keywords, ∃ reported, ReportedOnce keywords reported ∧
        check keywords = collected ++ reported.map
          (.duplicateKeyword what · owner)) ∧
    ∀ l : Language,
      (language ev l).filter Warning.isDuplicate =
        (KeywordGroup.all l).flatMap KeywordGroup.warnings ∧
      (language ev l).filter (fun w => !w.isDuplicate) = others ev l ∧
      ((∀ w ∈ language ev l, w.isDuplicate = false) ↔
        (l.contexts.map (·.keyword)).Nodup ∧ (l.cases.map (·.keyword)).Nodup ∧
          (∀ c ∈ l.contexts, (c.rules.map (·.keyword)).Nodup) ∧
          ∀ c ∈ l.cases, (c.rules.map (·.keyword)).Nodup) := by
  constructor
  · intro what owner collected check
    refine ⟨List.append_nil collected, fun keywords k => ?_, fun keywords => ?_⟩
    · simp only [check, duplicates_concat, List.append_assoc]
    · exact ⟨_, reportedOnce_repeatedFrom keywords, rfl⟩
  · intro l
    refine ⟨(splits_language ev l).duplicates,
      (splits_language ev l).others, ?_⟩
    rw [isDuplicate_language_iff, KeywordGroup.forall_mem_all]

end Lint
end Phrasebook
