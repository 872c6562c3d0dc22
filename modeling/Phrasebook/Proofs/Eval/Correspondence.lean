import Mathlib
import Phrasebook.Proofs.Eval.Assigned
import Phrasebook.Proofs.Expr.Names

/-!
# Two evaluations side by side

An expression that is evaluated twice, under different bindings, takes the same
way both times as long as the values on the two sides stay related: related
values are true or false alike, are both lists or both not, and compare alike. A
`Correspondence` gives the relations and the laws that the operations have to
obey for this. The main result is that evaluation obeys them too: for every
expression that keeps to the names for which the laws hold, the two evaluations
yield related values, notice related events, execute the same assignments, and
leave related bindings.
-/

namespace Phrasebook

variable {α β γ δ : Type}

/-- Two values are lists with items related one by one, or neither of them is a
list. -/
inductive Value.ListView (R : Value → Value → Prop) : Value → Value → Prop
  | list {vs ws : List Value} (h : List.Forall₂ R vs ws) :
      ListView R (.list vs) (.list ws)
  | other {v w : Value} (hv : v.list? = none) (hw : w.list? = none) :
      ListView R v w

theorem Value.listView_refl {R : Value → Value → Prop} (hR : ∀ v, R v v)
    (v : Value) :
    ListView R v v := by
  cases v with
  | list vs => exact .list (List.forall₂_same.mpr fun v _ => hR v)
  | _ => exact .other rfl rfl

/-- Two results are related values, or failures for related reasons. -/
inductive Outcomes (V : Value → Value → Prop)
    (E : EvalError → EvalError → Prop) :
    Except EvalError Value → Except EvalError Value → Prop
  | ok {v w : Value} (h : V v w) : Outcomes V E (.ok v) (.ok w)
  | error {d e : EvalError} (h : E d e) : Outcomes V E (.error d) (.error e)

/-- Relations between the two sides of a double evaluation, and the laws that
make the two sides take the same way. -/
structure Correspondence (ev : Evaluator) where
  value : Value → Value → Prop
  error : EvalError → EvalError → Prop
  event : Event → Event → Prop
  /-- The bindings of the two sides when the given names have been assigned. -/
  bindings : List String → Bindings → Bindings → Prop
  /-- The variables that may be read. -/
  reads : String → Prop
  /-- The operations that may be called. -/
  calls : String → Prop
  value_refl : ∀ v, value v v
  truthy_eq : ∀ {v w}, value v w → v.truthy = w.truthy
  listView : ∀ {v w}, value v w → Value.ListView value v w
  list : ∀ {vs ws}, List.Forall₂ value vs ws → value (.list vs) (.list ws)
  compare_eq : ∀ {v w x y}, value v w → value x y →
    Value.compare .equal v x = Value.compare .equal w y
  error_refl : ∀ e, error e e
  mismatch : ∀ name {v w}, value v w →
    error (.mismatch name v) (.mismatch name w)
  degraded : ∀ rule {d e}, error d e →
    event (.degraded rule d (ev.suggestions d))
      (.degraded rule e (ev.suggestions e))
  lookup : ∀ {ns b c name}, reads name → bindings ns b c →
    value ((b.get? name).getD (.str name)) ((c.get? name).getD (.str name))
  assign : ∀ {ns b c v w} name, bindings ns b c → value v w →
    bindings (ns ++ [name]) (b.set name v) (c.set name w)
  primitive : ∀ {name p vs ws}, calls name →
    ev.operation? name = some (.builtin (.primitive p)) →
    List.Forall₂ value vs ws →
    Outcomes value error (p.apply ev.clock name vs) (p.apply ev.clock name ws)
  applicative : ∀ {name run vs ws}, ev.operation? name =
    some (.applicative run) →
    List.Forall₂ value vs ws → value (run vs) (run ws)
  noSpecial : ∀ name run, ev.operation? name ≠ some (.special run)

namespace Correspondence

variable {ev : Evaluator} (L : Correspondence ev)

/-- From related bindings the two computations have related values, notice
related events, assign to the same names, and leave related bindings. -/
def Relates (R : α → β → Prop) (x : Eval α) (xs : Assignments) (y : Eval β)
    (ys : Assignments) :
    Prop :=
  ∀ ns b c, L.bindings ns b c →
    R (x.value b) (y.value c) ∧ List.Forall₂ L.event (x.log b) (y.log c) ∧
    xs b = ys c ∧
      L.bindings (ns ++ xs b) (x.after b) (y.after c)

/-- The operand behaves alike on both sides. -/
def Respects (o : Tracked) : Prop :=
  L.Relates L.value o.run o.assigned o.run o.assigned

abbrev outcomes : Except EvalError Value → Except EvalError Value → Prop :=
  Outcomes L.value L.error

variable {L} {R : α → β → Prop} {S : γ → δ → Prop} {x : Eval α} {y : Eval β}
    {xs ys : Assignments}

/-! ## Building computations -/

theorem relates_pure {a : α} {a' : β} (h : R a a') :
    L.Relates R (pure a) .none (pure a') .none := by
  intro ns b c hb
  refine ⟨h, .nil, rfl, ?_⟩
  simpa [Assignments.none] using hb

theorem Relates.bind {f : α → Eval γ} {g : β → Eval δ} {fs : α → Assignments}
    {gs : β → Assignments} (hx : L.Relates R x xs y ys)
    (hf : ∀ a a', R a a' → L.Relates S (f a) (fs a) (g a') (gs a')) :
    L.Relates S (x >>= f) (xs.andThen x fs) (y >>= g) (ys.andThen y gs) := by
  intro ns b c hb
  obtain ⟨hvalue, hlog, hassigned, hafter⟩ := hx ns b c hb
  obtain ⟨hvalue', hlog', hassigned', hafter'⟩ := hf _ _ hvalue _ _ _ hafter
  simp only [Eval.value_bind, Eval.log_bind, Eval.after_bind]
  refine ⟨hvalue', List.rel_append hlog hlog', ?_, ?_⟩
  · rw [Assignments.andThen, Assignments.andThen, hassigned, hassigned']
  · rw [List.append_assoc] at hafter'
    exact hafter'

theorem andThen_none (xs : Assignments) (x : Eval α) :
    xs.andThen x (fun _ => .none) = xs := by
  funext b
  simp [Assignments.andThen, Assignments.none]

/-- What follows without assigning leaves the assignments as they are. -/
theorem Relates.follow {f : α → Eval γ} {g : β → Eval δ}
    (hx : L.Relates R x xs y ys)
    (hf : ∀ a a', R a a' → L.Relates S (f a) .none (g a') .none) :
    L.Relates S (x >>= f) xs (y >>= g) ys := by
  have hbind := hx.bind hf
  rwa [andThen_none, andThen_none] at hbind

theorem Relates.map {f : α → γ} {g : β → δ} (hx : L.Relates R x xs y ys)
    (hf : ∀ a a', R a a' → S (f a) (g a')) :
    L.Relates S (f <$> x) xs (g <$> y) ys := by
  rw [map_eq_pure_bind, map_eq_pure_bind]
  exact hx.follow fun a a' h => relates_pure (hf a a' h)

theorem relates_lookup {name : String} (h : L.reads name) :
    L.Relates L.value (Eval.lookup name) .none (Eval.lookup name) .none := by
  intro ns b c hb
  refine ⟨L.lookup h hb, .nil, rfl, ?_⟩
  simpa [Assignments.none] using hb

theorem relates_assign (name : String) {v w : Value} (h : L.value v w) :
    L.Relates (fun _ _ => True) (Eval.assign name v) (fun _ => [name])
      (Eval.assign name w)
      (fun _ => [name]) :=
  fun _ _ _ hb => ⟨trivial, .nil, rfl, L.assign name hb h⟩

theorem relates_tell {d e : Event} (h : L.event d e) :
    L.Relates (fun _ _ => True) (Eval.tell d) .none (Eval.tell e) .none := by
  intro ns b c hb
  refine ⟨trivial, .cons h .nil, rfl, ?_⟩
  simpa [Assignments.none] using hb

theorem relates_settle (rule : Expr) {r s : Except EvalError Value}
    (h : L.outcomes r s) :
    L.Relates L.value (ev.settle rule r) .none (ev.settle rule s) .none := by
  cases h with
  | ok h => exact relates_pure h
  | error h =>
      refine (relates_tell (L.degraded rule h)).follow fun _ _ _ => ?_
      exact relates_pure (L.value_refl .null)

/-! ## Operands -/

variable {o : Tracked} {os : List Tracked}

theorem relates_runAll (h : ∀ o ∈ os, L.Respects o) :
    L.Relates (List.Forall₂ L.value) (Operand.runAll (os.map Tracked.toOperand))
      (Tracked.assignedWhile (fun _ => true) os)
        (Operand.runAll (os.map Tracked.toOperand))
      (Tracked.assignedWhile (fun _ => true) os) := by
  induction os with
  | nil => exact relates_pure .nil
  | cons o os ih =>
      obtain ⟨ho, hos⟩ := List.forall_mem_cons.mp h
      refine Relates.bind ho fun v w hvw => ?_
      exact (ih hos).follow fun vs ws hvs => relates_pure (.cons hvw hvs)

theorem relates_runEvery (h : ∀ o ∈ os, L.Respects o) :
    L.Relates Eq (Operand.runEvery (os.map Tracked.toOperand))
      (Tracked.assignedWhile Value.truthy os)
        (Operand.runEvery (os.map Tracked.toOperand))
      (Tracked.assignedWhile Value.truthy os) := by
  induction os with
  | nil => exact relates_pure rfl
  | cons o os ih =>
      obtain ⟨ho, hos⟩ := List.forall_mem_cons.mp h
      refine Relates.bind ho fun v w hvw => ?_
      rw [L.truthy_eq hvw]
      cases w.truthy with
      | false => exact relates_pure rfl
      | true => exact ih hos

theorem relates_runSome (h : ∀ o ∈ os, L.Respects o) :
    L.Relates Eq (Operand.runSome (os.map Tracked.toOperand))
      (Tracked.assignedWhile (fun v => !v.truthy) os)
      (Operand.runSome (os.map Tracked.toOperand))
      (Tracked.assignedWhile (fun v => !v.truthy) os) := by
  induction os with
  | nil => exact relates_pure rfl
  | cons o os ih =>
      obtain ⟨ho, hos⟩ := List.forall_mem_cons.mp h
      refine Relates.bind ho fun v w hvw => ?_
      have htruthy := L.truthy_eq hvw
      cases hw : w.truthy with
      | false =>
          simp only [htruthy, hw, Bool.not_false, Bool.false_eq_true, if_true,
            if_false]
          exact ih hos
      | true =>
          simp only [htruthy, hw, Bool.not_true, Bool.false_eq_true, if_true,
            if_false]
          exact relates_pure rfl

theorem Respects.listTracked (h : L.Respects o) :
    L.Respects (ev.listTracked o) := by
  by_cases hliteral : ev.isLiteralList o.expr = true
  · have hrun : (ev.listTracked o).run = pure o.expr.quote := if_pos hliteral
    have hassigned : (ev.listTracked o).assigned = .none := if_pos hliteral
    rw [Respects, hrun, hassigned]
    exact relates_pure (L.value_refl _)
  · have hrun : (ev.listTracked o).run = o.run := if_neg hliteral
    have hassigned : (ev.listTracked o).assigned = o.assigned := if_neg hliteral
    rw [Respects, hrun, hassigned]
    exact h

/-! ## Forms -/

theorem itemsEqual_eq {all : Bool} {v w x y : Value} (hlist : L.value v w)
    (h : L.value x y) :
    Evaluator.itemsEqual all v x = Evaluator.itemsEqual all w y := by
  cases L.listView hlist with
  | list hitems =>
      have hequal : ∀ {vs ws}, List.Forall₂ L.value vs ws →
          vs.map (Value.compare .equal · x) =
            ws.map (Value.compare .equal · y) := by
        intro vs ws hvs
        induction hvs with
        | nil => rfl
        | cons hv _ ih =>
            rw [List.map_cons, List.map_cons, L.compare_eq hv h, ih]
      have hall :=
        congrArg (fun l => (l.isEmpty, l.all id, l.any id)) (hequal hitems)
      simp only [List.isEmpty_map, List.all_map, List.any_map, Prod.mk.injEq]
        at hall
      obtain ⟨hempty, hall, hany⟩ := hall
      cases all with
      | true => exact congrArg₂ (fun a b => !a && b) hempty hall
      | false => exact congrArg₂ (fun a b => !a && b) hempty hany
  | other hv hw =>
      have hfalse : ∀ {v x : Value}, v.list? = none →
          Evaluator.itemsEqual all v x = false := by
        intro v x hv
        cases v <;> first | rfl | simp [Value.list?] at hv
      rw [hfalse hv, hfalse hw]

theorem relates_error (e : EvalError) :
    L.Relates L.outcomes (pure (.error e)) .none (pure (.error e)) .none :=
  relates_pure (.error (L.error_refl e))

theorem relates_flag {f : Bool → Value} {x y : Eval Bool}
    (h : L.Relates Eq x xs y ys) :
    L.Relates L.outcomes ((fun b => .ok (f b)) <$> x) xs
      ((fun b => .ok (f b)) <$> y) ys := by
  refine h.map fun a a' haa' => ?_
  rw [haa']
  exact .ok (L.value_refl _)

/-- An operation on lists yields a value from the items, and fails on everything
else. -/
theorem relates_onList {f : List Value → Value} (name : String) (v w : Value)
    (hf : ∀ {vs ws}, List.Forall₂ L.value vs ws → L.value (f vs) (f ws)) :
    L.value v w → L.Relates L.outcomes
      (match v with
        | .list items => pure (.ok (f items))
        | other => pure (.error (.mismatch name other))) .none
      (match w with
        | .list items => pure (.ok (f items))
        | other => pure (.error (.mismatch name other))) .none := by
  intro h
  cases L.listView h with
  | list hitems => exact relates_pure (.ok (hf hitems))
  | other hv hw =>
      split
      · simp [Value.list?] at hv
      · split
        · simp [Value.list?] at hw
        · exact relates_pure (.error (L.mismatch name h))

theorem relates_items {all : Bool} {o expected : Tracked} (ho : L.Respects o)
    (hexpected : L.Respects expected) :
    L.Relates L.outcomes
      (do
        let list ← (ev.listTracked o).run
        let expected ← expected.run
        pure (.ok (.bool (Evaluator.itemsEqual all list expected))))
      ((ev.listTracked o).assigned.andThen (ev.listTracked o).run fun _ =>
        expected.assigned)
      (do
        let list ← (ev.listTracked o).run
        let expected ← expected.run
        pure (.ok (.bool (Evaluator.itemsEqual all list expected))))
      ((ev.listTracked o).assigned.andThen (ev.listTracked o).run fun _ =>
        expected.assigned) := by
  refine Relates.bind ho.listTracked fun v w hvw => ?_
  refine Relates.follow hexpected fun x y hxy => ?_
  rw [itemsEqual_eq hvw hxy]
  exact relates_pure (.ok (L.value_refl _))

theorem relates_form (f : Form) (name : String) {args : List Tracked}
    (h : ∀ o ∈ args, L.Respects o) :
    L.Relates L.outcomes (ev.form f name (args.map Tracked.toOperand))
      (ev.formAssigned f args)
      (ev.form f name (args.map Tracked.toOperand))
        (ev.formAssigned f args) := by
  cases f with
  | quote =>
      match args with
      | [o] => exact relates_pure (.ok (L.value_refl _))
      | [] | _ :: _ :: _ => exact relates_error _
  | car =>
      match args with
      | [o] =>
          refine Relates.follow (h o (by simp)) fun v w hvw => ?_
          refine relates_onList name v w (fun hitems => ?_) hvw
          cases hitems with
          | nil => exact L.value_refl .null
          | cons hv _ => exact hv
      | [] | _ :: _ :: _ => exact relates_error _
  | cdr =>
      match args with
      | [o] =>
          refine Relates.follow (h o (by simp)) fun v w hvw => ?_
          refine relates_onList name v w (fun hitems => L.list ?_) hvw
          cases hitems with
          | nil => exact .nil
          | cons _ htail => exact htail
      | [] | _ :: _ :: _ => exact relates_error _
  | cond =>
      match args with
      | [condition, yes] =>
          simp only [Evaluator.form, Evaluator.formAssigned, List.map]
          refine Relates.bind (h condition (by simp)) fun v w hvw => ?_
          rw [L.truthy_eq hvw]
          cases w.truthy with
          | false => exact relates_pure (.ok (L.value_refl .null))
          | true => exact Relates.map (h yes (by simp)) fun _ _ => .ok
      | [condition, yes, no] =>
          simp only [Evaluator.form, Evaluator.formAssigned, List.map]
          refine Relates.bind (h condition (by simp)) fun v w hvw => ?_
          rw [L.truthy_eq hvw]
          cases w.truthy with
          | false => exact Relates.map (h no (by simp)) fun _ _ => .ok
          | true => exact Relates.map (h yes (by simp)) fun _ _ => .ok
      | [] | [_] | _ :: _ :: _ :: _ :: _ => exact relates_error _
  | and => exact relates_flag (relates_runEvery h)
  | or => exact relates_flag (relates_runSome h)
  | true => exact relates_pure (.ok (L.value_refl _))
  | false => exact relates_pure (.ok (L.value_refl _))
  | assign =>
      match args with
      | [target, o] =>
          simp only [Evaluator.form, Evaluator.formAssigned, List.map]
          cases target.expr.headName? with
          | none => exact relates_error _
          | some assigned =>
              refine Relates.bind (h o (by simp)) fun v w hvw => ?_
              exact (relates_assign assigned hvw).follow fun _ _ _ =>
                relates_pure (.ok hvw)
      | [] | [_] | _ :: _ :: _ :: _ => exact relates_error _
  | count =>
      match args with
      | [o] =>
          refine Relates.follow (h o (by simp)).listTracked fun v w hvw => ?_
          refine relates_onList name v w (fun hitems => ?_) hvw
          rw [hitems.length_eq]
          exact L.value_refl _
      | [] | _ :: _ :: _ => exact relates_error _
  | all =>
      match args with
      | [o, expected] =>
          exact relates_items (h o (by simp)) (h expected (by simp))
      | [] | [_] | _ :: _ :: _ :: _ => exact relates_error _
  | any =>
      match args with
      | [o, expected] =>
          exact relates_items (h o (by simp)) (h expected (by simp))
      | [] | [_] | _ :: _ :: _ :: _ => exact relates_error _

/-! ## Evaluation -/

theorem relates_call (head : Expr) {args : List Tracked}
    (h : ∀ o ∈ args, L.Respects o)
    (hhead : ∀ name, head.headName? = some name → L.calls name) :
    L.Relates L.outcomes (ev.call head (args.map Tracked.toOperand))
      (ev.callAssigned head args)
      (ev.call head (args.map Tracked.toOperand))
        (ev.callAssigned head args) := by
  cases hname : head.headName? with
  | none =>
      simp only [Evaluator.call, Evaluator.callAssigned, hname]
      exact relates_error _
  | some name =>
      cases hop : ev.operation? name with
      | none =>
          simp only [Evaluator.call, Evaluator.callAssigned, hname, hop]
          exact relates_error _
      | some op =>
          match op with
          | .special run => exact absurd hop (L.noSpecial name run)
          | .applicative run =>
              simp only [Evaluator.call, Evaluator.callAssigned, hname, hop]
              refine (relates_runAll h).follow fun vs ws hvs => relates_pure ?_
              simp only [Evaluator.apply, hop]
              exact .ok (L.applicative hop hvs)
          | .builtin (.form f) =>
              simp only [Evaluator.call, Evaluator.callAssigned, hname, hop]
              exact relates_form f name h
          | .builtin (.primitive p) =>
              simp only [Evaluator.call, Evaluator.callAssigned, hname, hop]
              refine (relates_runAll h).follow fun vs ws hvs => relates_pure ?_
              simp only [Evaluator.apply, hop]
              exact L.primitive (hhead name hname) hop hvs

/-- Evaluation obeys the laws of a correspondence, if the expression reads and
calls only what they are about. -/
theorem relates_evaluate (e : Expr) (hreads : ∀ name ∈ e.symbols, L.reads name)
    (hcalls : ∀ name ∈ e.operators, L.calls name) :
    L.Relates L.value (ev.evaluate e) (ev.assigned e) (ev.evaluate e)
      (ev.assigned e) := by
  induction e using Expr.induction with
  | int n => exact relates_pure (L.value_refl _)
  | str s => exact relates_pure (L.value_refl _)
  | symbol name => exact relates_lookup (hreads name (by simp [Expr.symbols]))
  | list es ih =>
      cases es with
      | nil => exact relates_pure (L.value_refl _)
      | cons head args =>
          have hargs : ∀ o ∈ ev.tracked args, L.Respects o := by
            intro o ho
            rw [Evaluator.tracked_eq_map] at ho
            obtain ⟨e, he, rfl⟩ := List.mem_map.mp ho
            have hmem : e ∈ head :: args := List.mem_cons_of_mem head he
            exact ih e hmem
              (fun name h => hreads name (Expr.mem_symbols_list hmem h))
              fun name h => hcalls name (Expr.mem_operators_list hmem h)
          have hcall := relates_call head hargs fun name h =>
            hcalls name (Expr.mem_operators_head h)
          rw [Evaluator.map_toOperand_tracked] at hcall
          exact hcall.follow fun r s hrs =>
            relates_settle (.list (head :: args)) hrs

/-! ## Equal sides -/

/-- The correspondence of evaluations that only differ in their bindings. -/
def equal (ev : Evaluator)
    (hev : ∀ name run, ev.operation? name ≠ some (.special run))
    (bindings : List String → Bindings → Bindings → Prop)
    (reads : String → Prop) (hreads : ∀ {ns b c name},
      reads name → bindings ns b c → b.get? name = c.get? name)
    (hassign : ∀ {ns b c} name v, bindings ns b c →
      bindings (ns ++ [name]) (b.set name v) (c.set name v)) :
        Correspondence ev where
  value := Eq
  error := Eq
  event := Eq
  bindings := bindings
  reads := reads
  calls := fun _ => True
  value_refl := fun _ => rfl
  truthy_eq := congrArg Value.truthy
  listView := fun h => h ▸ Value.listView_refl (fun _ => rfl) _
  list := fun h => congrArg Value.list (List.forall₂_eq_eq_eq ▸ h)
  compare_eq := congrArg₂ (Value.compare .equal)
  error_refl := fun _ => rfl
  mismatch := fun name _ _ h => congrArg (EvalError.mismatch name) h
  degraded := fun rule _ _ h => by rw [h]
  lookup := fun h hb => by rw [hreads h hb]
  assign := fun name hb h => h ▸ hassign name _ hb
  primitive := by
    intro name p vs ws _ _ hvs
    obtain rfl : vs = ws := List.forall₂_eq_eq_eq ▸ hvs
    cases p.apply ev.clock name vs with
    | ok v => exact .ok rfl
    | error e => exact .error rfl
  applicative := by
    intro name run vs ws _ hvs
    obtain rfl : vs = ws := List.forall₂_eq_eq_eq ▸ hvs
    rfl
  noSpecial := hev

end Correspondence
end Phrasebook
