import Mathlib.Data.List.Lex
import QueryCheck.Proofs.Value.Converse

/-!
# Families of values with a total order

Exact numbers, truth values, texts, bytes, times of day and instants are each ordered totally, and so
are arrays of one family. A value is placed in a linear order, where its comparisons are read off.
-/

namespace QueryCheck.Value

open Condition (Comparison)

set_option autoImplicit false

def rational? : Value → Option ℚ
  | int64 n => some n.toInt
  | numeric d => some d.value
  | _ => none

/-- Values that can be compared with each other. -/
inductive Family where
  | exact
  | bool
  | string
  | bytes
  | time
  | instant
  | array (item : Family)

namespace Family

inductive Member : Family → Value → Prop where
  | int64 (n : Int64) : Member exact (.int64 n)
  | numeric (d : Decimal) : Member exact (.numeric d)
  | bool (b : Bool) : Member bool (.bool b)
  | string (text : String) : Member string (.string text)
  | bytes (content : List UInt8) : Member bytes (.bytes content)
  | time (t : TimeOfDay) : Member time (.time t)
  | date (d : Date) : Member instant (.date d)
  | datetime (dt : DateTime) : Member instant (.datetime dt)
  | timestamp (ts : Timestamp) : Member instant (.timestamp ts)
  | array {item : Family} {items : List Value} (each : ∀ v ∈ items, Member item v) :
      Member (array item) (.array items)

theorem Member.has_rational {v : Value} (member : Member exact v) : ∃ x, v.rational? = some x := by
  cases member <;> exact ⟨_, rfl⟩

theorem Member.has_instant {v : Value} (member : Member instant v) : ∃ t, v.instant? = some t := by
  cases member <;> exact ⟨_, rfl⟩

theorem Member.has_items {item : Family} {v : Value} (member : Member (Family.array item) v) :
    ∃ items, v = .array items := by
  cases member
  exact ⟨_, rfl⟩

/-- Where the values of a family are placed: numbers, truth values, codes of characters, octets,
nanoseconds, and lists of places. -/
def Point : Family → Type
  | exact => ℚ
  | bool => Bool
  | string => List Nat
  | bytes => List Nat
  | time => Nat
  | instant => Int
  | array item => List item.Point

instance pointOrder : (family : Family) → LinearOrder family.Point
  | exact => inferInstanceAs (LinearOrder ℚ)
  | bool => inferInstanceAs (LinearOrder Bool)
  | string => inferInstanceAs (LinearOrder (List Nat))
  | bytes => inferInstanceAs (LinearOrder (List Nat))
  | time => inferInstanceAs (LinearOrder Nat)
  | instant => inferInstanceAs (LinearOrder Int)
  | array item => @List.instLinearOrder item.Point (pointOrder item)

def place : (family : Family) → Value → family.Point
  | exact, v => v.rational?.getD (0 : ℚ)
  | bool, .bool b => b
  | bool, _ => false
  | string, .string text => text.toList.map Char.toNat
  | string, _ => ([] : List Nat)
  | bytes, .bytes content => content.map UInt8.toNat
  | bytes, _ => ([] : List Nat)
  | time, .time t => t.nanos
  | time, _ => (0 : Nat)
  | instant, v => v.instant?.getD (0 : Int)
  | array item, .array items => items.map item.place
  | array item, _ => ([] : List item.Point)

end Family

/-! ## Lists -/

theorem compares_cons {α : Type} [LinearOrder α] {a b : α} {as bs : List α}
    {first rest : Ordering} (heads : first.Compares a b) (tails : rest.Compares as bs) :
    (first.then rest).Compares (a :: as) (b :: bs) := by
  cases first with
  | lt => exact List.Lex.rel heads
  | gt => exact List.Lex.rel heads
  | eq =>
      obtain rfl : a = b := heads
      cases rest with
      | lt => exact List.Lex.cons tails
      | gt => exact List.Lex.cons tails
      | eq => exact congrArg (a :: ·) tails

theorem lexicographic_compares (as bs : List Nat) :
    (List.compareLex Ord.compare as bs).Compares as bs := by
  induction as generalizing bs with
  | nil =>
      cases bs with
      | nil => rfl
      | cons b bs => exact List.Lex.nil
  | cons a as induction =>
      cases bs with
      | nil => exact List.Lex.nil
      | cons b bs =>
          rw [List.compareLex_cons_cons]
          exact compares_cons ((compare_iff a b).mp rfl) (induction bs)

theorem bool_compares (x y : Bool) : (Ord.compare x.toNat y.toNat).Compares x y := by
  cases x <;> cases y <;> rfl

theorem rational_eq (v : Value) : v.rational? = v.toDecimal?.map Decimal.value := by
  cases v <;> simp [rational?, toDecimal?, Decimal.value_of_int64]

theorem order_of_decimals {a b : Value} {d e : Decimal} (first : a.toDecimal? = some d)
    (second : b.toDecimal? = some e) : a.order b = .ok (some (d.order e)) := by
  cases a <;> cases first <;> cases b <;> cases second <;> rfl

theorem order_of_rationals {a b : Value} {x y : ℚ} (first : a.rational? = some x)
    (second : b.rational? = some y) : a.order b = .ok (some (cmp x y)) := by
  rw [rational_eq, Option.map_eq_some_iff] at first second
  obtain ⟨d, left, rfl⟩ := first
  obtain ⟨e, right, rfl⟩ := second
  rw [order_of_decimals left right, Decimal.order_eq_cmp]

theorem order_of_instants {a b : Value} {s t : Int} (first : a.instant? = some s)
    (second : b.instant? = some t) : a.order b = .ok (some (Ord.compare s t)) := by
  cases a <;> cases first <;> cases b <;> cases second <;> rfl

/-- The places of arrays are those of their items. -/
theorem order_items_compares {item : Family} {as bs : List Value}
    (each : ∀ {a b : Value}, item.Member a → item.Member b →
      ∃ found, a.order b = .ok (some found) ∧ found.Compares (item.place a) (item.place b))
    (first : ∀ v ∈ as, item.Member v) (second : ∀ v ∈ bs, item.Member v) :
    ∃ found, orderItems as bs = .ok (some found) ∧
      found.Compares (as.map item.place) (bs.map item.place) := by
  induction as generalizing bs with
  | nil =>
      cases bs with
      | nil => exact ⟨.eq, rfl, rfl⟩
      | cons b bs => exact ⟨.lt, rfl, List.Lex.nil⟩
  | cons a as induction =>
      cases bs with
      | nil => exact ⟨.gt, rfl, List.Lex.nil⟩
      | cons b bs =>
          rw [List.forall_mem_cons] at first second
          obtain ⟨head, heads, placed⟩ := each first.1 second.1
          obtain ⟨tail, tails, rest⟩ := induction first.2 second.2
          refine ⟨head.then tail, ?_, compares_cons placed rest⟩
          cases head with
          | eq => rw [order_items_same as bs heads, tails, Ordering.eq_then]
          | lt => exact (order_items_differ as bs (by rw [heads]; nofun)).trans heads
          | gt => exact (order_items_differ as bs (by rw [heads]; nofun)).trans heads

/-- Values of a family are ordered as their places are. -/
theorem order_compares (family : Family) {a b : Value} (first : family.Member a)
    (second : family.Member b) :
    ∃ found, a.order b = .ok (some found) ∧ found.Compares (family.place a) (family.place b) := by
  induction family generalizing a b with
  | exact =>
      cases first <;> cases second <;> exact ⟨_, order_of_rationals rfl rfl, cmp_compares _ _⟩
  | bool =>
      cases first with
      | bool x =>
          cases second with
          | bool y => exact ⟨_, rfl, bool_compares x y⟩
  | string =>
      cases first with
      | string s =>
          cases second with
          | string t => exact ⟨_, rfl, lexicographic_compares _ _⟩
  | bytes =>
      cases first with
      | bytes s =>
          cases second with
          | bytes t => exact ⟨_, rfl, lexicographic_compares _ _⟩
  | time =>
      cases first with
      | time s =>
          cases second with
          | time t => exact ⟨_, rfl, (compare_iff s.nanos t.nanos).mp rfl⟩
  | instant =>
      cases first <;> cases second <;> exact ⟨_, order_of_instants rfl rfl, (compare_iff _ _).mp rfl⟩
  | array item each =>
      cases first with
      | array first =>
          cases second with
          | array second =>
              rw [order]
              exact order_items_compares each first second

/-! ## Orders of families -/

/-- A list comes before another by the first two items that differ, or because it is a proper beginning
of the other. -/
inductive Precedes : List Value → List Value → Prop where
  | shorter (b : Value) (bs : List Value) : Precedes [] (b :: bs)
  | head {a b : Value} (as bs : List Value) (less : Holds .less a b) : Precedes (a :: as) (b :: bs)
  | tail {a b : Value} {as bs : List Value} (same : Holds .equal a b) (rest : Precedes as bs) :
      Precedes (a :: as) (b :: bs)

theorem precedes_iff {as bs : List Value} {found : Option Ordering}
    (order : orderItems as bs = .ok found) : Precedes as bs ↔ found = some .lt := by
  induction as generalizing bs with
  | nil =>
      cases bs with
      | nil =>
          cases order
          exact ⟨nofun, nofun⟩
      | cons b bs =>
          cases order
          exact ⟨fun _ => rfl, fun _ => .shorter b bs⟩
  | cons a as induction =>
      cases bs with
      | nil =>
          cases order
          exact ⟨nofun, nofun⟩
      | cons b bs =>
          by_cases same : a.order b = .ok (some .eq)
          · obtain ⟨equal, less, -⟩ := holds_of_order same
            rw [order_items_same as bs same] at order
            rw [← induction order]
            constructor
            · intro precedes
              cases precedes with
              | head as bs smaller => cases less.mp smaller
              | tail same rest => exact rest
            · exact .tail (equal.mpr rfl)
          · rw [order_items_differ as bs same] at order
            obtain ⟨equal, less, -⟩ := holds_of_order order
            constructor
            · intro precedes
              cases precedes with
              | head as bs smaller => exact less.mp smaller
              | tail same rest =>
                cases equal.mp same
                contradiction
            · intro smaller
              exact .head as bs (less.mpr smaller)

theorem equal_items_iff (as bs : List Value) :
    equalItems as bs = true ↔ List.Forall₂ (Holds .equal) as bs := by
  induction as generalizing bs with
  | nil =>
      cases bs with
      | nil => exact ⟨fun _ => .nil, fun _ => rfl⟩
      | cons b bs => exact ⟨nofun, nofun⟩
  | cons a as induction =>
      cases bs with
      | nil => exact ⟨nofun, nofun⟩
      | cons b bs =>
          rw [equalItems, Bool.and_eq_true, List.forall₂_cons, induction, holds_equal_iff]

/-- The comparisons of a family are those of the places of its members. -/
theorem holds_of_members {family : Family} {a b : Value} (first : family.Member a)
    (second : family.Member b) :
    (Holds .less a b ↔ family.place a < family.place b) ∧
      (Holds .equal a b ↔ family.place a = family.place b) ∧
      (Holds .greater a b ↔ family.place b < family.place a) ∧
      (Holds .lessEqual a b ↔ family.place a ≤ family.place b) := by
  obtain ⟨found, order, placed⟩ := order_compares family first second
  obtain ⟨equal, less, greater, lessEqual, -⟩ := holds_of_order order
  rw [equal, less, greater, lessEqual]
  simp only [Option.some.injEq, le_iff_lt_or_eq]
  rw [placed.eq_lt, placed.eq_eq, placed.eq_gt]
  exact ⟨Iff.rfl, Iff.rfl, Iff.rfl, Iff.rfl⟩

/-- The values of a family are totally ordered: exact numbers as rational numbers, dates, date-times and
timestamps as instants, and arrays by their first difference. -/
theorem families_are_ordered (family : Family) (a b c : Value) (first : family.Member a)
    (second : family.Member b) (third : family.Member c) :
    (∀ op ∈ orderings, ∃ outcome, Value.compare op a b = .ok outcome) ∧
    (Holds .less a b ∨ Holds .equal a b ∨ Holds .greater a b) ∧
    [Comparison.less, .equal, .greater].Pairwise (fun one other => ¬(Holds one a b ∧ Holds other a b)) ∧
    (Holds .lessEqual a b → Holds .lessEqual b c → Holds .lessEqual a c) ∧
    (family = .exact → ∃ x y, a.rational? = some x ∧ b.rational? = some y ∧
      (Holds .less a b ↔ x < y) ∧ (Holds .equal a b ↔ x = y)) ∧
    (family = .instant → ∃ s t, a.instant? = some s ∧ b.instant? = some t ∧
      (Holds .less a b ↔ s < t) ∧ (Holds .equal a b ↔ s = t)) ∧
    (∀ item, family = .array item → ∃ as bs, a = .array as ∧ b = .array bs ∧
      (Holds .less a b ↔ Precedes as bs) ∧
      (Holds .equal a b ↔ List.Forall₂ (Holds .equal) as bs)) := by
  obtain ⟨found, ordered, -⟩ := order_compares family first second
  obtain ⟨less, equal, greater, smaller⟩ := holds_of_members first second
  refine ⟨?_, ?_, ?_, ?_, ?_, ?_, ?_⟩
  · intro op ordering
    simp only [orderings, List.mem_cons, List.not_mem_nil, or_false] at ordering
    rcases ordering with rfl | rfl | rfl | rfl <;> exact ⟨_, ordered_found _ _ ordered⟩
  · rw [less, equal, greater]
    exact lt_trichotomy _ _
  · exact exclusive_of_order ordered
  · rw [smaller, (holds_of_members second third).2.2.2, (holds_of_members first third).2.2.2]
    exact le_trans
  · rintro rfl
    obtain ⟨x, left⟩ := first.has_rational
    obtain ⟨y, right⟩ := second.has_rational
    obtain ⟨equal, less, -⟩ := holds_of_order (order_of_rationals left right)
    refine ⟨x, y, left, right, ?_, ?_⟩
    · rw [less, Option.some.injEq, cmp_eq_lt_iff]
    · rw [equal, Option.some.injEq, cmp_eq_eq_iff]
  · rintro rfl
    obtain ⟨s, left⟩ := first.has_instant
    obtain ⟨t, right⟩ := second.has_instant
    obtain ⟨equal, less, -⟩ := holds_of_order (order_of_instants left right)
    refine ⟨s, t, left, right, ?_, ?_⟩
    · rw [less, Option.some.injEq, Int.compare_eq_lt]
    · rw [equal, Option.some.injEq, Int.compare_eq_eq]
  · rintro item rfl
    obtain ⟨as, rfl⟩ := first.has_items
    obtain ⟨bs, rfl⟩ := second.has_items
    obtain ⟨-, less, -⟩ := holds_of_order ordered
    rw [order] at ordered
    refine ⟨as, bs, rfl, rfl, ?_, ?_⟩
    · rw [less, precedes_iff ordered]
    · rw [holds_equal_iff, Value.equal, equal_items_iff]

def daySchedule : Value := .array [.array [.date marchFirst]]

/-- The midnight of the same day, and nothing after it. -/
def midnightSchedule : Value :=
  .array [.array [.datetime ⟨marchFirst, .midnight⟩], .array []]

/-- The midnight where clocks are an hour behind. -/
def laterSchedule : Value := .array [.array [.timestamp ⟨⟨marchFirst, .midnight⟩, -60⟩]]

theorem schedules_are_ordered :
    (Family.array (.array .instant)).Member daySchedule ∧
      (Family.array (.array .instant)).Member midnightSchedule ∧
      (Family.array (.array .instant)).Member laterSchedule ∧
      Holds .lessEqual daySchedule midnightSchedule ∧
      Holds .lessEqual midnightSchedule laterSchedule ∧
      Holds .lessEqual daySchedule laterSchedule := by
  have day : (Family.array (.array .instant)).Member daySchedule :=
    .array (List.forall_mem_singleton.mpr (.array (List.forall_mem_singleton.mpr (.date _))))
  have midnight : (Family.array (.array .instant)).Member midnightSchedule :=
    .array (List.forall_mem_cons.mpr
      ⟨.array (List.forall_mem_singleton.mpr (.datetime _)),
        List.forall_mem_singleton.mpr (.array (by simp))⟩)
  have later : (Family.array (.array .instant)).Member laterSchedule :=
    .array (List.forall_mem_singleton.mpr (.array (List.forall_mem_singleton.mpr (.timestamp _))))
  have shorter : Holds .lessEqual daySchedule midnightSchedule := rfl
  have earlier : Holds .lessEqual midnightSchedule laterSchedule := rfl
  exact ⟨day, midnight, later, shorter, earlier,
    (families_are_ordered _ _ _ _ day midnight later).2.2.2.1 shorter earlier⟩

end QueryCheck.Value
