import Mathlib.Data.List.AList
import Mathlib.Data.Nat.Digits

/-!
# Go values of the member manager

Go maps become `AList`s keyed by strings: no key occurs twice and the order of the entries
carries no meaning. `reflect.DeepEqual` on two maps is `GoMap.deepEqual`, which is equality of
lookups. An `int32(x)` conversion wraps around, and `strings.Split(s, sep)[0]` is the part of `s`
before the first `sep`. Timestamps are `Nat`, `0` standing for the zero `metav1.Time`.
-/

namespace TikvOperator

/-- A Go `map[string]V`. -/
abbrev GoMap (α : Type) := AList (fun _ : String => α)

namespace GoMap

variable {α : Type} [DecidableEq α]

/-- `reflect.DeepEqual` on two non-nil maps, as the reflect package computes it: the lengths
agree and every key of the first is found in the second with an equal value. -/
def deepEqual (m n : GoMap α) : Bool :=
  m.entries.length == n.entries.length && m.entries.all fun e => n.lookup e.1 == some e.2

theorem deepEqual_iff (m n : GoMap α) :
    deepEqual m n = true ↔ ∀ k, m.lookup k = n.lookup k := by
  simp only [deepEqual, Bool.and_eq_true, beq_iff_eq, List.all_eq_true]
  constructor
  · rintro ⟨hlen, hall⟩
    have sub : m.keys ⊆ n.keys := fun k hk => by
      obtain ⟨e, he, rfl⟩ := List.mem_map.mp hk
      exact AList.mem_keys.mp (AList.lookup_isSome.mp (by simp [hall e he]))
    have perm : m.keys.Perm n.keys :=
      (List.subperm_of_subset m.keys_nodup sub).perm_of_length_le
        (by simp [AList.keys, List.keys, hlen])
    intro k
    cases hk : m.lookup k with
    | none =>
      have hn : k ∉ n := fun h => AList.lookup_eq_none.mp hk
        (AList.mem_keys.mpr (perm.mem_iff.mpr (AList.mem_keys.mp h)))
      exact (AList.lookup_eq_none.mpr hn).symm
    | some v => exact (hall _ (AList.mem_lookup_iff.mp hk)).symm
  · intro h
    refine ⟨?_, fun e he => by rw [← h, AList.mem_lookup_iff.mpr he]⟩
    have perm : m.keys.Perm n.keys :=
      (List.perm_ext_iff_of_nodup m.keys_nodup n.keys_nodup).mpr fun k => by
        rw [← AList.mem_keys, ← AList.mem_keys, ← AList.lookup_isSome, ← AList.lookup_isSome, h]
    simpa [AList.keys, List.keys] using perm.length_eq

end GoMap

/-- `int32(x)`: two's complement wrap-around to 32 bits, modulo `2 ^ 32 = 4294967296`. -/
def int32 (x : Int) : Int := x.bmod 4294967296

/-- `strings.Split(s, sep)[0]` for a one-character separator. -/
def splitHead (s : String) (sep : Char) : String := ⟨s.data.takeWhile (· != sep)⟩

theorem takeWhile_ne_append (u v : List Char) (sep : Char) (hu : sep ∉ u) :
    (u ++ sep :: v).takeWhile (· != sep) = u := by
  induction u with
  | nil => simp
  | cons c u ih =>
    have hc : c ≠ sep := fun h => hu (h ▸ List.mem_cons_self c u)
    simp [hc, ih (fun h => hu (List.mem_cons_of_mem c h))]

theorem splitHead_append (u v : List Char) (sep : Char) (hu : sep ∉ u) :
    splitHead ⟨u ++ sep :: v⟩ sep = ⟨u⟩ :=
  congrArg String.mk (takeWhile_ne_append u v sep hu)

/-- A text cut at the first separator gives back its two parts. -/
theorem append_sep_inj {u v u' v' : List Char} {sep : Char} (hu : sep ∉ u) (hu' : sep ∉ u')
    (h : u ++ sep :: v = u' ++ sep :: v') : u = u' ∧ v = v' := by
  have hu_eq : u = u' := by
    rw [← takeWhile_ne_append u v sep hu, h, takeWhile_ne_append u' v' sep hu']
  subst hu_eq
  exact ⟨rfl, (List.cons.inj (List.append_cancel_left h)).2⟩

theorem String.append_cancel_left {a b c : String} (h : a ++ b = a ++ c) : b = c := by
  have hd := congrArg String.data h
  rw [String.data_append, String.data_append] at hd
  exact String.ext (List.append_cancel_left hd)

theorem int32_natCast {i : Nat} (hi : i < 2147483648) : int32 i = i := by
  unfold int32
  rw [Int.bmod_def, Int.emod_eq_of_lt (by omega) (by omega)]
  simp only [ite_eq_left_iff, not_lt]
  omega

/-! ## Decimal numerals

`toString n` prints `n` in decimal: a non-empty string of digits that reads back, from the left,
as `n`. Two numbers print alike only when they are equal. -/

/-- One step of reading a decimal numeral from the left. -/
def decimalStep (acc : Nat) (c : Char) : Nat := 10 * acc + (c.toNat - 48)

theorem digitChar_decimal :
    ∀ d < 10, (Nat.digitChar d).toNat - 48 = d ∧ (Nat.digitChar d).isDigit = true := by
  decide

theorem foldl_decimalStep_toDigitsCore : ∀ (fuel n : Nat) (ds : List Char), n < fuel →
    (Nat.toDigitsCore 10 fuel n ds).foldl decimalStep 0 = ds.foldl decimalStep n ∧
      (∀ c ∈ Nat.toDigitsCore 10 fuel n ds, c.isDigit = true ∨ c ∈ ds) ∧
      ds.length < (Nat.toDigitsCore 10 fuel n ds).length
  | 0, _, _, h => absurd h (Nat.not_lt_zero _)
  | fuel + 1, n, ds, h => by
    obtain ⟨hv, hdig⟩ := digitChar_decimal (n % 10) (Nat.mod_lt _ (by decide))
    have hd : ∀ ds', ∀ c ∈ Nat.digitChar (n % 10) :: ds', c.isDigit = true ∨ c ∈ ds' :=
      fun ds' c hc => (List.mem_cons.mp hc).imp (fun h : c = _ => h ▸ hdig) id
    unfold Nat.toDigitsCore
    dsimp only
    by_cases h10 : n / 10 = 0
    · rw [if_pos h10]
      refine ⟨?_, hd ds, Nat.lt_succ_self _⟩
      simp only [List.foldl_cons, decimalStep, hv]
      congr 1
      omega
    · rw [if_neg h10]
      obtain ⟨ih, ihd, ihl⟩ :=
        foldl_decimalStep_toDigitsCore fuel (n / 10) (Nat.digitChar (n % 10) :: ds) (by omega)
      refine ⟨?_, fun c hc => (ihd c hc).elim .inl (hd ds c), (Nat.lt_succ_self _).trans ihl⟩
      rw [ih, List.foldl_cons, decimalStep, hv]
      congr 1
      omega

/-- A decimal numeral is a non-empty string of digits that reads back as the number it prints. -/
theorem toString_decimal (n : Nat) :
    (toString n).data.foldl decimalStep 0 = n ∧
      (toString n).data ≠ [] ∧ ∀ c ∈ (toString n).data, c.isDigit = true := by
  obtain ⟨hv, hd, hl⟩ := foldl_decimalStep_toDigitsCore (n + 1) n [] (Nat.lt_succ_self n)
  exact ⟨hv, List.ne_nil_of_length_pos hl, fun c hc => (hd c hc).resolve_right (List.not_mem_nil _)⟩

theorem toString_inj {i j : Nat} (h : (toString i).data = (toString j).data) : i = j := by
  rw [← (toString_decimal i).1, ← (toString_decimal j).1, h]

theorem not_mem_toString (c : Char) (hc : c.isDigit = false) (n : Nat) : c ∉ (toString n).data :=
  fun h => absurd ((toString_decimal n).2.2 c h) (by rw [hc]; decide)

/-- Errors a reconcile step returns. -/
inductive Error where
  /-- `controller.RequeueErrorf`: not ready yet, retried after a fixed delay. -/
  | requeue (msg : String)
  /-- A NotFound answer of the API server or of a lister. -/
  | notFound (name : String)
  /-- Any other failure reported by the API server, a lister or the placement service. -/
  | api (msg : String)
  /-- A `fmt.Errorf` of the member manager itself. -/
  | failed (msg : String)
  /-- `regexp.Compile` rejected the pattern. -/
  | regexp
  /-- A nil pointer dereference. -/
  | nilPointer
deriving DecidableEq, Repr, Inhabited

/-- `errors.IsNotFound`. -/
def Error.isNotFound : Error → Bool
  | .notFound _ => true
  | _ => false

section Answers

variable {ε α : Type} {x : Except ε α}

theorem exists_ok_of_isOk (h : x.isOk = true) : ∃ a, x = .ok a := by
  cases x with
  | ok a => exact ⟨a, rfl⟩
  | error e => cases h

theorem exists_error_of_isOk_eq_false (h : x.isOk = false) : ∃ e, x = .error e := by
  cases x with
  | ok a => cases h
  | error e => exact ⟨e, rfl⟩

end Answers

end TikvOperator
