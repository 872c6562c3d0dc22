import Mathlib
import Phrasebook.Proofs.Eval.CountText
import Phrasebook.Proofs.Number.Arithmetic

/-!
# Arithmetic on integers is exact

Where both operands are integers, or decimal texts of integers, an operation of
arithmetic yields the result that it has on the integers without a bound. If
there is no such result, or it is out of range, the operation is undefined: it
yields nothing and says so in the journal. No result is ever wrapped or rounded.
A quotient and a remainder that exist make up the dividend again.

Addition is an exception on two texts, which it joins.
-/

namespace Phrasebook

open Value (Alike)

variable {a b : Int64} {u v : Value} {β : Bindings} {x y : String}

/-! ## On values -/

/-- The result of an operation on integers that may be undefined. -/
def Integer.outcome (name : String) : Option Int64 → Except EvalError Value
  | some n => .ok (.int n)
  | none => .error (.arithmetic name)

namespace Primitive

theorem apply_arithmetic (clock : Moment) (op : Arithmetic) (name : String)
    (hu : Alike (.int a) u) (hv : Alike (.int b) v)
    (hjoin : op = .add → u.str? = none ∨ v.str? = none) :
    (arithmetic op).apply clock name [u, v] = Integer.outcome name
    (op.onInts? a b) := by
  have hnumbers : u.number? = some (.int a) ∧ v.number? = some (.int b) :=
    ⟨hu.number?_eq.symm, hv.number?_eq.symm⟩
  have hapart :
      ((op == .add && !u.isNull && !v.isNull) &&
        (u.str?.isSome && v.str?.isSome)) =
      false := by
    by_cases hop : op = .add
    · rcases hjoin hop with h | h <;> simp [h]
    · simp [hop]
  simp only [apply, Arithmetic.apply, hnumbers, hapart, Arithmetic.onNumbers?]
  cases op.onInts? a b <;> rfl

theorem apply_mod (clock : Moment) (name : String) (hu : Alike (.int a) u)
    (hv : Alike (.int b) v) :
    mod.apply clock name [u, v] = Integer.outcome name (Integer.rem? a b) := by
  have hu' : integer? u = some a := (integer?_eq hu).symm
  have hv' : integer? v = some b := (integer?_eq hv).symm
  simp only [apply, remainder, hu', hv']
  cases Integer.rem? a b <;> rfl

end Primitive

/-! ## On variables -/

/-- An operation on two variables. -/
def Expr.binary (name x y : String) : Expr :=
  .list [.symbol name, .symbol x, .symbol y]

namespace Evaluator

open Eval (Yields)

/-- The operation is undefined for the values of the variables: it yields
nothing, and the journal says so. -/
def Undefined (ev : Evaluator) (name x y : String) (β : Bindings) : Prop :=
  ev.run (.binary name x y) β =
    ⟨(.null, β), [.degraded (.binary name x y) (.arithmetic name) []]⟩

/-- The operation yields the integer without a trace, or is undefined if the
integer is out of range. -/
def YieldsExactly (ev : Evaluator) (name x y : String) (β : Bindings)
    (n : Int) : Prop :=
  (∀ m : Int64, m.toInt = n → ev.run (.binary name x y) β = pure (.int m, β)) ∧
    ((∀ m : Int64, m.toInt ≠ n) → ev.Undefined name x y β)

variable {ev : Evaluator} {name : String} {p : Primitive}

/-- A primitive receives the values of the variables. -/
theorem run_binary (hname : ev.operation? name = some (.builtin (.primitive p)))
    (hx : β.get? x = some u) (hy : β.get? y = some v) :
    ev.run (.binary name x y) β =
      (ev.settle (.binary name x y) (p.apply ev.clock name [u, v])).run β := by
  have hargs : List.Forall₂ (fun e v => (ev.evaluate e).Yields β v)
      [.symbol x, .symbol y] [u, v] :=
    .cons (yields_symbol hx) (.cons (yields_symbol hy) .nil)
  have hvalues :
      (Operand.runAll (ev.operands [.symbol x, .symbol y])).run β =
        pure ([u, v], β) :=
    (yieldAll_operands hargs).runAll
  have hcall : ev.call (.symbol name) (ev.operands [.symbol x, .symbol y]) =
      Operand.runAll (ev.operands [.symbol x, .symbol y]) >>= fun values =>
        pure (p.apply ev.clock name values) := by
    simp only [call, Expr.headName?, hname, apply]
  rw [run, Expr.binary, evaluate, hcall, bind_assoc, StateT.run_bind, hvalues]
  rfl

theorem run_of_outcome
    (hname : ev.operation? name = some (.builtin (.primitive p)))
    (hx : β.get? x = some u) (hy : β.get? y = some v) {r : Option Int64}
    (h : p.apply ev.clock name [u, v] = Integer.outcome name r) :
    (∀ m, r = some m → ev.run (.binary name x y) β = pure (.int m, β)) ∧
      (r = none → ev.Undefined name x y β) := by
  rw [Undefined, run_binary hname hx hy, h]
  constructor
  · rintro m rfl
    rfl
  · rintro rfl
    rfl

theorem yieldsExactly_of_outcome
    (hname : ev.operation? name = some (.builtin (.primitive p)))
    (hx : β.get? x = some u) (hy : β.get? y = some v) {n : Int}
    (h : p.apply ev.clock name [u, v] = Integer.outcome name
      (Integer.ofInt? n)) :
    ev.YieldsExactly name x y β n := by
  obtain ⟨hfits, hout⟩ := run_of_outcome hname hx hy h
  constructor
  · rintro m rfl
    exact hfits m (Integer.ofInt?_toInt m)
  · intro hne
    apply hout
    exact Option.eq_none_iff_forall_ne_some.mpr fun m hm =>
      hne m (Integer.toInt_of_ofInt? hm)

/-- On variables that hold integers or decimal texts of integers, sums,
differences and products are the exact ones or undefined, and so are the
quotient and the remainder, rounded toward zero. If they exist, the quotient
times the divisor plus the remainder is the dividend. -/
theorem run_integer_arithmetic (clock : Moment) (hu : Alike (.int a) u)
    (hv : Alike (.int b) v) (hx : β.get? x = some u) (hy : β.get? y = some v) :
    let ev := standard clock
    (u.str? = none ∨ v.str? = none →
      ev.YieldsExactly "+" x y β (a.toInt + b.toInt)) ∧
      ev.YieldsExactly "-" x y β (a.toInt - b.toInt) ∧
      ev.YieldsExactly "*" x y β (a.toInt * b.toInt) ∧
      (Integer.HasQuotient a b → ∃ q r : Int64,
        q.toInt = a.toInt.tdiv b.toInt ∧
          ev.run (.binary "/" x y) β = pure (.int q, β) ∧
        r.toInt = a.toInt.tmod b.toInt ∧
          ev.run (.binary "mod" x y) β = pure (.int r, β) ∧
        ev.run
          (.list [.symbol "+", .list [.symbol "*", .binary "/" x y, .symbol y],
          .binary "mod" x y]) β = pure (.int a, β)) ∧
      (¬ Integer.HasQuotient a b → ev.Undefined "/" x y β ∧
        ev.Undefined "mod" x y β) := by
  intro ev
  have hadd : ev.operation? "+" =
      some (.builtin (.primitive (.arithmetic .add))) :=
    operation?_named rfl
  have hsub : ev.operation? "-" =
      some (.builtin (.primitive (.arithmetic .sub))) :=
    operation?_named rfl
  have hmul : ev.operation? "*" =
      some (.builtin (.primitive (.arithmetic .mul))) :=
    operation?_named rfl
  have hquotient :
      ev.operation? "/" = some (.builtin (.primitive (.arithmetic .div))) :=
    operation?_named rfl
  have hremainder : ev.operation? "mod" = some (.builtin (.primitive .mod)) :=
    operation?_named rfl
  have hdiv := run_of_outcome hquotient hx hy
    (Primitive.apply_arithmetic clock .div "/" hu hv (by simp))
  have hmod :=
    run_of_outcome hremainder hx hy (Primitive.apply_mod clock "mod" hu hv)
  refine ⟨fun hjoin => ?_, ?_, ?_, fun h => ?_, fun h => ?_⟩
  · exact yieldsExactly_of_outcome hadd hx hy
      (Primitive.apply_arithmetic clock .add "+" hu hv fun _ => hjoin)
  · exact yieldsExactly_of_outcome hsub hx hy
      (Primitive.apply_arithmetic clock .sub "-" hu hv (by simp))
  · exact yieldsExactly_of_outcome hmul hx hy
      (Primitive.apply_arithmetic clock .mul "*" hu hv (by simp))
  · obtain ⟨q, hq, htdiv⟩ := h.exists_div?
    obtain ⟨r, hr, htmod⟩ := h.exists_rem?
    obtain ⟨p, hp, hproduct⟩ := Integer.exists_mul? htdiv
    refine ⟨q, r, htdiv, hdiv.1 q hq, htmod, hmod.1 r hr, ?_⟩
    have htimes :
        (ev.evaluate (.list [.symbol "*", .binary "/" x y, .symbol y])).Yields β
        (.int p) := by
      refine yields_primitive hmul
        (.cons (hdiv.1 q hq) (.cons (yields_symbol hy) .nil)) ?_
      rw [Primitive.apply_arithmetic ev.clock .mul "*" (.refl _) hv (by simp),
        Arithmetic.onInts?, hp]
      rfl
    have hsum : Integer.add? p r = some a := by
      rw [Integer.add?, hproduct, htmod, Int.sub_add_cancel,
        Integer.ofInt?_toInt]
    refine yields_primitive hadd (.cons htimes (.cons (hmod.1 r hr) .nil)) ?_
    rw [Primitive.apply_arithmetic ev.clock .add "+" (.refl _) (.refl _)
      (fun _ => .inl rfl),
      Arithmetic.onInts?, hsum]
    rfl
  · exact ⟨hdiv.2 (Integer.div?_eq_none h), hmod.2 (Integer.rem?_eq_none h)⟩

/-- The least integer, given as text, can be divided by seven but not by minus
one, and minus one can be taken from it but not added to it. -/
theorem run_integer_arithmetic_minValue :
    let ev := standard default
    let least := Value.str (Integer.text Int64.minValue)
    let β : Bindings := ⟨[("@a", least), ("@b", .int (-1))]⟩
    let β' : Bindings := ⟨[("@a", least), ("@b", .str (Integer.text 7))]⟩
    (ev.Undefined "+" "@a" "@b" β ∧ ev.Undefined "*" "@a" "@b" β ∧
      ev.Undefined "/" "@a" "@b" β ∧
      ev.Undefined "mod" "@a" "@b" β ∧
      ev.run (.binary "-" "@a" "@b") β =
        pure (.int (-9223372036854775807), β)) ∧
      ev.run (.binary "/" "@a" "@b") β' =
        pure (.int (-1317624576693539401), β') ∧
      ev.run (.binary "mod" "@a" "@b") β' = pure (.int (-1), β') ∧
      ev.run
        (.list [.symbol "+",
          .list [.symbol "*", .binary "/" "@a" "@b", .symbol "@b"],
        .binary "mod" "@a" "@b"]) β' = pure (.int Int64.minValue, β') := by
  intro ev least β β'
  have hout : ∀ {n : Int}, n < -2 ^ 63 ∨ 2 ^ 63 ≤ n →
      ∀ m : Int64, m.toInt ≠ n := by
    intro n hn m
    have hlo := m.le_toInt
    have hhi := m.toInt_lt
    omega
  obtain ⟨hadd, hsub, hmul, -, hnone⟩ :=
    run_integer_arithmetic default (β := β) (x := "@a")
    (y := "@b") (.intText Int64.minValue) (.refl (.int (-1))) rfl rfl
  obtain ⟨-, -, -, hsome, -⟩ :=
    run_integer_arithmetic default (β := β') (x := "@a") (y := "@b")
    (.intText Int64.minValue) (.intText 7) rfl rfl
  obtain ⟨hdiv, hmod⟩ := hnone (by decide)
  obtain ⟨q, r, hq, hdiv', hr, hmod', hparts⟩ := hsome (by decide)
  obtain rfl : q = -1317624576693539401 :=
    Int64.toInt_inj.mp (hq.trans (by decide))
  obtain rfl : r = -1 := Int64.toInt_inj.mp (hr.trans (by decide))
  exact ⟨⟨(hadd (.inr rfl)).2 (hout (by decide)), hmul.2 (hout (by decide)),
    hdiv, hmod,
    hsub.1 _ (by decide)⟩, hdiv', hmod', hparts⟩

end Evaluator
end Phrasebook
