import TikvOperator.Types

/-!
# The store-ownership pattern

`tikvStoreLimitPattern` is a `fmt.Sprintf` format. The cluster name, the cluster name again and
the namespace are put into it unescaped, `regexp.Compile` parses the result, and `Match` looks
for a match anywhere in a store's address. Object names hold only the characters `dnsChar`
admits, so the compiled pattern stays inside a small part of RE2: literal characters, `.`, `\d`,
escaped punctuation and `+`. `compile` parses that part and returns `none` outside it.

The code's matcher is the backtracking `matchPrefix` with the search `find`. What a pattern
means is the language `Lang`; `matchPrefix_iff` and `find_iff` connect the two.
-/

namespace TikvOperator

/-- `tikvStoreLimitPattern`. -/
def tikvStoreLimitPattern : String := "%s-tikv-\\d+\\.%s-tikv-peer\\.%s\\.svc\\:\\d+"

/-- `fmt.Sprintf` for a format whose only verb is `%s`, given an argument for each verb. -/
def sprintf : List Char → List String → List Char
  | '%' :: 's' :: fmt, a :: args => a.data ++ sprintf fmt args
  | c :: fmt, args => c :: sprintf fmt args
  | [], _ => []

namespace Regexp

/-- A character class: a literal, `\d`, or `.` (any character but a newline). -/
inductive CharClass where
  | lit (c : Char)
  | digit
  | any
deriving DecidableEq, Repr

def CharClass.test : CharClass → Char → Bool
  | .lit c, x => x == c
  | .digit, x => x.isDigit
  | .any, x => x != '\n'

/-- A lexical token of a pattern. -/
inductive Token where
  | cls (k : CharClass)
  | plus
deriving DecidableEq, Repr

/-- A parsed pattern item: a class taken once, or one or more times. -/
inductive Item where
  | one (k : CharClass)
  | plus (k : CharClass)
deriving DecidableEq, Repr

/-- RE2's metacharacters. -/
def metaChars : List Char := "\\.+*?()|[]\x7b\x7d^$".data

/-- The lexer of `regexp.Compile`: `\d`, an escaped punctuation character, `.`, `+` and
ordinary characters. `none` is any other escape or metacharacter. -/
def tokenize : List Char → Option (List Token)
  | [] => some []
  | c :: cs =>
    if c = '\\' then
      match cs with
      | [] => none
      | e :: cs =>
        if e = 'd' then (tokenize cs).map (.cls .digit :: ·)
        else if e.isAlphanum then none
        else (tokenize cs).map (.cls (.lit e) :: ·)
    else if c = '.' then (tokenize cs).map (.cls .any :: ·)
    else if c = '+' then (tokenize cs).map (.plus :: ·)
    else if c ∈ metaChars then none
    else (tokenize cs).map (.cls (.lit c) :: ·)

/-- The parser: a `+` binds to the class before it; a `+` with no class before it is an error. -/
def group : List Token → Option (List Item)
  | [] => some []
  | .cls k :: .plus :: ts => (group ts).map (.plus k :: ·)
  | .cls k :: ts => (group ts).map (.one k :: ·)
  | .plus :: _ => none

/-- `regexp.Compile`. -/
def compile (s : List Char) : Option (List Item) := tokenize s >>= group

/-- One step of the backtracking matcher: does a prefix of the text match the items? -/
def matchPrefix : List Item → List Char → Bool
  | [], _ => true
  | .one k :: is, c :: cs => k.test c && matchPrefix is cs
  | .plus k :: is, c :: cs => k.test c && (matchPrefix is cs || matchPrefix (.plus k :: is) cs)
  | _ :: _, [] => false

/-- `(*regexp.Regexp).Match`: a match anywhere in the text. -/
def find (r : List Item) : List Char → Bool
  | [] => matchPrefix r []
  | c :: cs => matchPrefix r (c :: cs) || find r cs

/-- The texts a pattern matches as a whole. -/
inductive Lang : List Item → List Char → Prop
  | nil : Lang [] []
  | one {k c is s} : k.test c = true → Lang is s → Lang (.one k :: is) (c :: s)
  | plusOne {k c is s} : k.test c = true → Lang is s → Lang (.plus k :: is) (c :: s)
  | plusMore {k c is s} : k.test c = true → Lang (.plus k :: is) s → Lang (.plus k :: is) (c :: s)

theorem not_lang_nil {i : Item} {is : List Item} : ¬ Lang (i :: is) [] := by
  intro h; cases h

theorem matchPrefix_iff (r : List Item) (s : List Char) :
    matchPrefix r s = true ↔ ∃ u v, s = u ++ v ∧ Lang r u := by
  induction s generalizing r with
  | nil =>
    cases r with
    | nil => exact ⟨fun _ => ⟨[], [], rfl, .nil⟩, fun _ => rfl⟩
    | cons i is =>
      cases i <;> simp only [matchPrefix, Bool.false_eq_true, false_iff, not_exists, not_and,
        List.nil_eq_append_iff] <;> rintro u v ⟨rfl, rfl⟩ <;> exact not_lang_nil
  | cons c cs ih =>
    cases r with
    | nil => exact ⟨fun _ => ⟨[], c :: cs, rfl, .nil⟩, fun _ => rfl⟩
    | cons i is =>
      cases i with
      | one k =>
        simp only [matchPrefix, Bool.and_eq_true, ih]
        constructor
        · rintro ⟨hk, u, v, rfl, hl⟩
          exact ⟨c :: u, v, rfl, .one hk hl⟩
        · rintro ⟨_, v, he, hl⟩
          cases hl with
          | one hk hl => cases he; exact ⟨hk, _, v, rfl, hl⟩
      | plus k =>
        simp only [matchPrefix, Bool.and_eq_true, Bool.or_eq_true, ih]
        constructor
        · rintro ⟨hk, ⟨u, v, rfl, hl⟩ | ⟨u, v, rfl, hl⟩⟩
          · exact ⟨c :: u, v, rfl, .plusOne hk hl⟩
          · exact ⟨c :: u, v, rfl, .plusMore hk hl⟩
        · rintro ⟨_, v, he, hl⟩
          cases hl with
          | plusOne hk hl => cases he; exact ⟨hk, .inl ⟨_, v, rfl, hl⟩⟩
          | plusMore hk hl => cases he; exact ⟨hk, .inr ⟨_, v, rfl, hl⟩⟩

theorem find_iff (r : List Item) (s : List Char) :
    find r s = true ↔ ∃ p u v, s = p ++ u ++ v ∧ Lang r u := by
  induction s with
  | nil =>
    simp only [find, matchPrefix_iff, List.nil_eq_append_iff]
    exact ⟨fun ⟨u, v, h, hl⟩ => ⟨[], u, v, by simp [h.1, h.2], hl⟩,
      fun ⟨p, u, v, h, hl⟩ => ⟨u, v, by simp_all, hl⟩⟩
  | cons c cs ih =>
    simp only [find, Bool.or_eq_true, matchPrefix_iff, ih]
    constructor
    · rintro (⟨u, v, h, hl⟩ | ⟨p, u, v, rfl, hl⟩)
      · exact ⟨[], u, v, by simp [h], hl⟩
      · exact ⟨c :: p, u, v, rfl, hl⟩
    · rintro ⟨p, u, v, h, hl⟩
      cases p with
      | nil => exact .inl ⟨u, v, by simpa using h, hl⟩
      | cons d p =>
        obtain ⟨rfl, rfl⟩ := List.cons.inj h
        exact .inr ⟨p, u, v, rfl, hl⟩

theorem Lang.append {r₁ r₂ : List Item} {u₁ u₂ : List Char} (h₁ : Lang r₁ u₁)
    (h₂ : Lang r₂ u₂) : Lang (r₁ ++ r₂) (u₁ ++ u₂) := by
  induction h₁ with
  | nil => exact h₂
  | one hk _ ih => exact .one hk ih
  | plusOne hk _ ih => exact .plusOne hk ih
  | plusMore hk _ ih => exact .plusMore hk ih

/-- The items a literal text compiles to. -/
def lits (s : List Char) : List Item := s.map fun c => .one (.lit c)

theorem lang_lits (s : List Char) : Lang (lits s) s := by
  induction s with
  | nil => exact .nil
  | cons c s ih => exact .one (by simp [CharClass.test]) ih

theorem lang_digits {d : List Char} (hne : d ≠ []) (hd : ∀ c ∈ d, c.isDigit = true) :
    Lang [.plus .digit] d := by
  induction d with
  | nil => exact absurd rfl hne
  | cons c d ih =>
    have hc : CharClass.digit.test c = true := hd c (List.mem_cons_self c d)
    cases d with
    | nil => exact .plusOne hc .nil
    | cons e d => exact .plusMore hc (ih (List.cons_ne_nil e d) fun x hx => hd x (by simp_all))

/-- The class a character of a name compiles to: `.` is a wildcard, any other stands for itself. -/
def nameClass (c : Char) : CharClass := if c = '.' then .any else .lit c

def nameToken (c : Char) : Token := .cls (nameClass c)
def nameItem (c : Char) : Item := .one (nameClass c)

theorem dnsChar_not_meta {c : Char} (hc : dnsChar c = true) (hd : c ≠ '.') : c ∉ metaChars := by
  have key : ∀ m ∈ metaChars, dnsChar m = true → m = '.' := by decide
  exact fun hm => hd (key c hm hc)

theorem tokenize_name_append {n : List Char} (rest : List Char) (hn : ∀ c ∈ n, dnsChar c = true) :
    tokenize (n ++ rest) = (tokenize rest).map (n.map nameToken ++ ·) := by
  induction n with
  | nil => simp
  | cons c n ih =>
    have hc := hn c (List.mem_cons_self c n)
    have hbs : c ≠ '\\' := by rintro rfl; exact absurd hc (by decide)
    have hplus : c ≠ '+' := by rintro rfl; exact absurd hc (by decide)
    rw [List.cons_append, tokenize.eq_def]
    simp only [ih fun x hx => hn x (List.mem_cons_of_mem c hx)]
    by_cases hd : c = '.'
    · subst hd; simp [nameToken, nameClass, Option.map_map, Function.comp_def]
    · simp [hbs, hd, hplus, dnsChar_not_meta hc hd, nameToken, nameClass, Option.map_map,
        Function.comp_def]

theorem group_cls_of_head {k : CharClass} {ts : List Token} (h : ts.head? ≠ some .plus) :
    group (.cls k :: ts) = (group ts).map (.one k :: ·) := by
  match ts, h with
  | [], _ => rfl
  | .cls _ :: _, _ => simp [group]
  | .plus :: _, h => exact absurd rfl h

theorem group_name_append (n : List Char) {ts : List Token} (h : ts.head? ≠ some .plus) :
    group (n.map nameToken ++ ts) = (group ts).map (n.map nameItem ++ ·) := by
  induction n with
  | nil => simp
  | cons c n ih =>
    rw [List.map_cons, List.cons_append, nameToken, group_cls_of_head, ih]
    · simp [nameItem, Option.map_map, Function.comp_def]
    · cases n <;> simp [nameToken, h]

theorem head_ne_plus (n : List Char) (k : CharClass) (ts : List Token) :
    (n.map nameToken ++ .cls k :: ts).head? ≠ some .plus := by
  cases n <;> simp [nameToken]

theorem group_cls_name_append (k : CharClass) (n : List Char) (k' : CharClass) (ts : List Token) :
    group (.cls k :: (n.map nameToken ++ .cls k' :: ts)) =
      (group (.cls k' :: ts)).map (.one k :: n.map nameItem ++ ·) := by
  rw [group_cls_of_head (head_ne_plus _ _ _), group_name_append _ (by simp)]
  simp [Option.map_map, Function.comp_def]

/-- The pattern `syncTikvClusterStatus` and `setStoreLabelsForTiKV` compile for a cluster. -/
def ownerPattern (name ns : String) : Option (List Item) :=
  compile (sprintf tikvStoreLimitPattern.data [name, name, ns])

/-- What the pattern of a cluster compiles to. -/
def ownerItems (name ns : String) : List Item :=
  name.data.map nameItem ++ lits "-tikv-".data ++ [.plus .digit] ++ lits ".".data ++
    name.data.map nameItem ++ lits "-tikv-peer.".data ++ ns.data.map nameItem ++
    lits ".svc:".data ++ [.plus .digit]

theorem ownerPattern_eq {name ns : String} (hname : ∀ c ∈ name.data, dnsChar c = true)
    (hns : ∀ c ∈ ns.data, dnsChar c = true) : ownerPattern name ns = some (ownerItems name ns) := by
  simp [ownerPattern, compile, tikvStoreLimitPattern, sprintf, tokenize_name_append _ hname,
    tokenize_name_append _ hns, tokenize, metaChars, Option.map_map, Function.comp_def,
    group_name_append, group, group_cls_name_append, ownerItems, lits]

theorem lang_name {n : List Char} (hn : ∀ c ∈ n, dnsChar c = true) : Lang (n.map nameItem) n := by
  induction n with
  | nil => exact .nil
  | cons c n ih =>
    have hc : (nameClass c).test c = true := by
      by_cases hd : c = '.' <;> simp [nameClass, CharClass.test, hd]
    exact .one hc (ih fun x hx => hn x (List.mem_cons_of_mem c hx))

/-- A non-empty string of decimal digits, what `\d+` stands for. -/
def IsDigits (s : String) : Prop := s.data ≠ [] ∧ ∀ c ∈ s.data, c.isDigit = true

instance : DecidablePred IsDigits := fun s =>
  inferInstanceAs (Decidable (s.data ≠ [] ∧ ∀ c ∈ s.data, c.isDigit = true))

/-- The peer address of pod `<name>-tikv-<d>`, serving on port `p`. -/
def canonicalAddress (name ns d p : String) : String :=
  name ++ "-tikv-" ++ d ++ "." ++ name ++ "-tikv-peer." ++ ns ++ ".svc:" ++ p

/-- Every peer address of the cluster's own pods is in the language of its pattern. -/
theorem lang_canonicalAddress {name ns d p : String} (hname : ∀ c ∈ name.data, dnsChar c = true)
    (hns : ∀ c ∈ ns.data, dnsChar c = true) (hd : IsDigits d) (hp : IsDigits p) :
    Lang (ownerItems name ns) (canonicalAddress name ns d p).data := by
  have pieces := ((((((((lang_name hname).append (lang_lits "-tikv-".data)).append
    (lang_digits hd.1 hd.2)).append (lang_lits ".".data)).append (lang_name hname)).append
    (lang_lits "-tikv-peer.".data)).append (lang_name hns)).append (lang_lits ".svc:".data)).append
    (lang_digits hp.1 hp.2)
  simpa [canonicalAddress, ownerItems, lits] using pieces

/-! ## The language of the ownership pattern -/

/-- A text in the language of two patterns in sequence splits into a text of each. -/
theorem Lang.split {r : List Item} {u : List Char} (h : Lang r u) :
    ∀ r₁ r₂, r = r₁ ++ r₂ → ∃ u₁ u₂, u = u₁ ++ u₂ ∧ Lang r₁ u₁ ∧ Lang r₂ u₂ := by
  induction h with
  | nil =>
    intro r₁ r₂ hr
    obtain ⟨rfl, rfl⟩ := List.append_eq_nil.mp hr.symm
    exact ⟨[], [], rfl, .nil, .nil⟩
  | one hk hl ih =>
    rintro (_ | ⟨i, r₁⟩) r₂ hr
    · obtain rfl : _ = r₂ := hr
      exact ⟨[], _, rfl, .nil, .one hk hl⟩
    · obtain ⟨rfl, rfl⟩ := List.cons.inj hr
      obtain ⟨u₁, u₂, rfl, h₁, h₂⟩ := ih r₁ r₂ rfl
      exact ⟨_ :: u₁, u₂, rfl, .one hk h₁, h₂⟩
  | plusOne hk hl ih =>
    rintro (_ | ⟨i, r₁⟩) r₂ hr
    · obtain rfl : _ = r₂ := hr
      exact ⟨[], _, rfl, .nil, .plusOne hk hl⟩
    · obtain ⟨rfl, rfl⟩ := List.cons.inj hr
      obtain ⟨u₁, u₂, rfl, h₁, h₂⟩ := ih r₁ r₂ rfl
      exact ⟨_ :: u₁, u₂, rfl, .plusOne hk h₁, h₂⟩
  | plusMore hk hl ih =>
    rintro (_ | ⟨i, r₁⟩) r₂ hr
    · obtain rfl : _ = r₂ := hr
      exact ⟨[], _, rfl, .nil, .plusMore hk hl⟩
    · obtain ⟨rfl, rfl⟩ := List.cons.inj hr
      obtain ⟨u₁, u₂, rfl, h₁, h₂⟩ := ih (_ :: r₁) r₂ rfl
      exact ⟨_ :: u₁, u₂, rfl, .plusMore hk h₁, h₂⟩

theorem lang_nil_iff {u : List Char} : Lang [] u ↔ u = [] :=
  ⟨fun h => by cases h; rfl, fun h => h ▸ .nil⟩

theorem lang_lits_iff (s u : List Char) : Lang (lits s) u ↔ u = s := by
  induction s generalizing u with
  | nil => exact lang_nil_iff
  | cons c s ih =>
    refine ⟨fun h => ?_, fun h => h ▸ lang_lits _⟩
    cases h with
    | one hk hl =>
      simp only [CharClass.test, beq_iff_eq] at hk
      rw [hk, (ih _).mp hl]

/-- What the pattern of a name matches: each character of the name itself, and a `.` of the name
any character but a newline. -/
def NameMatch (n u : List Char) : Prop := List.Forall₂ (fun c x => (nameClass c).test x = true) n u

theorem lang_name_iff (n u : List Char) : Lang (n.map nameItem) u ↔ NameMatch n u := by
  induction n generalizing u with
  | nil => simp [NameMatch, lang_nil_iff]
  | cons c n ih =>
    constructor
    · intro h
      cases h with
      | one hk hl => exact .cons hk ((ih _).mp hl)
    · intro h
      cases h with
      | cons hk hl => exact .one hk ((ih _).mpr hl)

theorem lang_digits_iff (u : List Char) :
    Lang [.plus .digit] u ↔ u ≠ [] ∧ ∀ c ∈ u, c.isDigit = true := by
  refine ⟨fun h => ?_, fun h => lang_digits h.1 h.2⟩
  generalize hr : [Item.plus .digit] = r at h
  induction h with
  | nil => cases hr
  | one _ _ _ => cases hr
  | plusOne hk hl _ =>
    simp only [List.cons.injEq, Item.plus.injEq] at hr
    obtain ⟨rfl, rfl⟩ := hr
    rw [lang_nil_iff.mp hl]
    exact ⟨List.cons_ne_nil _ _, List.forall_mem_singleton.mpr hk⟩
  | plusMore hk _ ih =>
    obtain ⟨-, hd⟩ := ih hr
    simp only [List.cons.injEq, Item.plus.injEq] at hr
    obtain ⟨rfl, rfl⟩ := hr
    exact ⟨List.cons_ne_nil _ _, List.forall_mem_cons.mpr ⟨hk, hd⟩⟩

/-- The texts the ownership pattern of a cluster matches as a whole: a pod's peer address in
which the two copies of the cluster name and the namespace are matched character by character,
a `.` of them standing for any character but a newline. -/
def OwnerForm (name ns : String) (u : List Char) : Prop :=
  ∃ n₁ d n₂ ns' p, u = n₁ ++ "-tikv-".data ++ d ++ ".".data ++ n₂ ++ "-tikv-peer.".data ++ ns' ++
      ".svc:".data ++ p ∧
    NameMatch name.data n₁ ∧ NameMatch name.data n₂ ∧ NameMatch ns.data ns' ∧
    (d ≠ [] ∧ ∀ c ∈ d, c.isDigit = true) ∧ (p ≠ [] ∧ ∀ c ∈ p, c.isDigit = true)

theorem lang_ownerItems_iff (name ns : String) (u : List Char) :
    Lang (ownerItems name ns) u ↔ OwnerForm name ns u := by
  constructor
  · intro h
    obtain ⟨u₈, p, rfl, h₈, hp⟩ := h.split _ _ rfl
    obtain ⟨u₇, t₄, rfl, h₇, ht₄⟩ := h₈.split _ _ rfl
    obtain ⟨u₆, ns', rfl, h₆, hns⟩ := h₇.split _ _ rfl
    obtain ⟨u₅, t₃, rfl, h₅, ht₃⟩ := h₆.split _ _ rfl
    obtain ⟨u₄, n₂, rfl, h₄, hn₂⟩ := h₅.split _ _ rfl
    obtain ⟨u₃, t₂, rfl, h₃, ht₂⟩ := h₄.split _ _ rfl
    obtain ⟨u₂, d, rfl, h₂, hd⟩ := h₃.split _ _ rfl
    obtain ⟨n₁, t₁, rfl, hn₁, ht₁⟩ := h₂.split _ _ rfl
    rw [lang_lits_iff] at ht₁ ht₂ ht₃ ht₄
    subst ht₁ ht₂ ht₃ ht₄
    exact ⟨n₁, d, n₂, ns', p, rfl, (lang_name_iff _ _).mp hn₁, (lang_name_iff _ _).mp hn₂,
      (lang_name_iff _ _).mp hns, (lang_digits_iff _).mp hd, (lang_digits_iff _).mp hp⟩
  · rintro ⟨n₁, d, n₂, ns', p, rfl, hn₁, hn₂, hns, hd, hp⟩
    exact ((((((((((lang_name_iff _ _).mpr hn₁).append (lang_lits _)).append
      ((lang_digits_iff _).mpr hd)).append (lang_lits _)).append
      ((lang_name_iff _ _).mpr hn₂)).append (lang_lits _)).append
      ((lang_name_iff _ _).mpr hns)).append (lang_lits _)).append ((lang_digits_iff _).mpr hp))

/-- The ownership check of a cluster compiles, and accepts exactly the addresses that contain a
text of `OwnerForm`: the peer address of one of its pods, the name's and the namespace's `.`
read as wildcards. -/
theorem ownerPattern_accepts_iff (tc : TikvCluster) (addr : String) :
    ∃ pattern, ownerPattern tc.name tc.ns = some pattern ∧
      (find pattern addr.data = true ↔
        ∃ pre u post, addr.data = pre ++ u ++ post ∧ OwnerForm tc.name tc.ns u) := by
  refine ⟨_, ownerPattern_eq tc.name_valid tc.ns_valid, ?_⟩
  simp only [find_iff, lang_ownerItems_iff]

end Regexp

end TikvOperator
