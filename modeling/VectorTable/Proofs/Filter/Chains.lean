import VectorTable.Filter.Display
import VectorTable.Proofs.Filter.Tokens

/-!
# Chains of conjunctions

Conjunctions of conjunctions are chains, whose links are conditions, disjunctions and negations. Their predicates have no parentheses, so the text of a predicate does not show how a chain was put together. It shows everything else: with every chain grouped to the right, filters with the same text differ in nothing but their values, although a condition that cares for missing keys looks like a conjunction or a disjunction itself and a key may hold any text.

The proof reads tokens from the left. A link ends where its tokens say, whatever follows; a chain goes on as long as there is a conjunction.
-/

namespace VectorTable

open Sql

namespace Filter

/-! ### Grouping to the right -/

/-- The conjunction of two filters, in which the links of the first one come one by one. -/
def before : Filter → Filter → Filter
  | and left right, next => and left (right.before next)
  | f, next => and f next

/-- A filter with every chain of conjunctions grouped to the right. -/
def chained : Filter → Filter
  | leaf condition => leaf condition
  | and left right => left.chained.before right.chained
  | or left right => or left.chained right.chained
  | not inner => not inner.chained
  | custom node base => custom node base
  | plain value => plain value

def isLink : Filter → Bool
  | and .. => false
  | _ => true

/-- Whether no conjunction begins with a conjunction. -/
def isChained : Filter → Bool
  | and left right => left.isLink && left.isChained && right.isChained
  | or left right => left.isChained && right.isChained
  | not inner => inner.isChained
  | leaf _ | custom .. | plain _ => true

/-- A filter in which conjunctions are grouped in another way, and nothing else is changed. -/
inductive Regrouped : Filter → Filter → Prop
  | refl (f : Filter) : Regrouped f f
  | trans {f g h : Filter} (hfg : Regrouped f g) (hgh : Regrouped g h) : Regrouped f h
  | assoc (f g h : Filter) : Regrouped (and (and f g) h) (and f (and g h))
  | and {f f' g g' : Filter} (hf : Regrouped f f') (hg : Regrouped g g') :
    Regrouped (and f g) (and f' g')
  | or {f f' g g' : Filter} (hf : Regrouped f f') (hg : Regrouped g g') :
    Regrouped (or f g) (or f' g')
  | not {f f' : Filter} (hf : Regrouped f f') : Regrouped (not f) (not f')

namespace Regrouped

variable {f g : Filter}

theorem isSupported_eq (h : Regrouped f g) : f.isSupported = g.isSupported := by
  induction h with
  | refl => rfl
  | trans _ _ ihf ihg => exact ihf.trans ihg
  | assoc => simp only [isSupported, Bool.and_assoc]
  | and _ _ ihf ihg | or _ _ ihf ihg => rw [isSupported, ihf, ihg, isSupported]
  | not _ ih => exact ih

theorem values_eq (h : Regrouped f g) : f.values = g.values := by
  induction h with
  | refl => rfl
  | trans _ _ ihf ihg => exact ihf.trans ihg
  | assoc => simp only [values, List.append_assoc]
  | and _ _ ihf ihg | or _ _ ihf ihg => rw [values, ihf, ihg, values]
  | not _ ih => exact ih

/-- How conjunctions are grouped has no part in the predicate. -/
theorem pieces_eq (h : Regrouped f g) (start : Int) : f.pieces start = g.pieces start := by
  induction h generalizing start with
  | refl => rfl
  | trans _ _ ihf ihg => exact (ihf start).trans (ihg start)
  | assoc => simp [pieces, values, Int.add_assoc]
  | and hf _ ihf ihg | or hf _ ihf ihg => rw [pieces, ihf, ihg, hf.values_eq, pieces]
  | not _ ih => rw [pieces, ih, pieces]

end Regrouped

theorem regrouped_before (f next : Filter) : Regrouped (and f next) (f.before next) := by
  induction f with
  | and left right _ ihr =>
    exact (Regrouped.assoc left right next).trans ((Regrouped.refl left).and ihr)
  | leaf | or | not | custom | plain => exact .refl _

theorem regrouped_chained (f : Filter) : Regrouped f f.chained := by
  induction f with
  | and left right ihl ihr => exact (ihl.and ihr).trans (regrouped_before _ _)
  | or left right ihl ihr => exact ihl.or ihr
  | not inner ih => exact ih.not
  | leaf | custom | plain => exact .refl _

theorem isChained_before {f next : Filter} (hf : f.isChained = true)
    (hnext : next.isChained = true) : (f.before next).isChained = true := by
  induction f with
  | and left right _ ihr =>
    obtain ⟨hleft, hright⟩ := Bool.and_eq_true_iff.mp hf
    exact Bool.and_eq_true_iff.mpr ⟨hleft, ihr hright⟩
  | leaf | or | not | custom | plain => simp_all [before, isChained, isLink]

theorem isChained_chained (f : Filter) : f.chained.isChained = true := by
  induction f with
  | and left right ihl ihr => exact isChained_before ihl ihr
  | or left right ihl ihr => exact Bool.and_eq_true_iff.mpr ⟨ihl, ihr⟩
  | not inner ih => exact ih
  | leaf | custom | plain => rfl

end Filter

/-! ### Filters that differ in values -/

section

variable {α : Type} {equal : α → α → Bool}

theorem isEqv_append {items others : List α} (h : items.length = others.length)
    (more moreOthers : List α) :
    (items ++ more).isEqv (others ++ moreOthers) equal =
      (items.isEqv others equal && more.isEqv moreOthers equal) := by
  induction items generalizing others with
  | nil => simp [List.length_eq_zero_iff.mp h.symm]
  | cons item items ih =>
    cases others with
    | nil => cases h
    | cons other others => simp [List.isEqv, ih (Nat.succ.inj h), Bool.and_assoc]

theorem length_eq_of_isEqv {items others : List α} (h : items.isEqv others equal = true) :
    items.length = others.length := by
  induction items generalizing others with
  | nil =>
    cases others with
    | nil => rfl
    | cons => cases h
  | cons item items ih =>
    cases others with
    | nil => cases h
    | cons other others => exact congrArg (· + 1) (ih (Bool.and_eq_true_iff.mp h).2)

end

namespace Leaf

/-- Two leaves differ in their values at most. -/
structure Alike (a b : Leaf) : Prop where
  pieces_eq : ∀ start, a.pieces start = b.pieces start
  length_eq : a.values.length = b.values.length
  same_eq : ∀ equal, a.same equal b = a.values.isEqv b.values equal

theorem alike_compare (operator : Comparison) {key key' : Key} (hkey : key.text = key'.text)
    (operand operand' : Operand) :
    (compare operator key operand).Alike (compare operator key' operand') where
  pieces_eq _ := by simp only [pieces, Comparison.pieces, hkey]
  length_eq := rfl
  same_eq _ := by simp [same, hkey, values, List.isEqv]

theorem alike_member (operator : Membership) {key key' : Key} (hkey : key.text = key'.text)
    (first first' : Operand) {rest rest' : List Operand} (hrest : rest.length = rest'.length) :
    (member operator key first rest).Alike (member operator key' first' rest') where
  pieces_eq _ := by simp only [pieces, Membership.pieces, hkey, hrest]
  length_eq := by simp [values, hrest]
  same_eq _ := by simp [same, hkey, values, List.isEqv]

theorem alike_of_same {equal : Value → Value → Bool} {a b : Leaf} (h : a.same equal b = true) :
    a.Alike b := by
  cases a <;> cases b <;> simp only [same, Bool.and_eq_true, beq_iff_eq, reduceCtorEq] at h
  · obtain ⟨⟨rfl, hkey⟩, -⟩ := h
    exact alike_compare _ hkey _ _
  · obtain ⟨⟨⟨rfl, hkey⟩, -⟩, hrest⟩ := h
    have hlength := length_eq_of_isEqv hrest
    rw [List.length_map, List.length_map] at hlength
    exact alike_member _ hkey _ _ hlength

end Leaf

namespace Filter

/-- Two filters differ in their values at most. -/
structure Alike (f g : Filter) : Prop where
  pieces_eq : ∀ start, f.pieces start = g.pieces start
  length_eq : f.values.length = g.values.length
  same_eq : ∀ equal, f.same equal g = f.values.isEqv g.values equal

namespace Alike

variable {left right left' right' : Filter}

theorem leaf {a b : Leaf} (h : a.Alike b) : (leaf a).Alike (Filter.leaf b) :=
  ⟨h.pieces_eq, h.length_eq, h.same_eq⟩

theorem and (hleft : left.Alike left') (hright : right.Alike right') :
    (Filter.and left right).Alike (Filter.and left' right') where
  pieces_eq start := by
    rw [pieces, hleft.pieces_eq, hright.pieces_eq, hleft.length_eq, pieces]
  length_eq := by
    rw [values, values, List.length_append, List.length_append, hleft.length_eq, hright.length_eq]
  same_eq equal := by
    rw [same, hleft.same_eq, hright.same_eq, values, values, isEqv_append hleft.length_eq]

theorem or (hleft : left.Alike left') (hright : right.Alike right') :
    (Filter.or left right).Alike (Filter.or left' right') where
  pieces_eq start := by
    rw [pieces, hleft.pieces_eq, hright.pieces_eq, hleft.length_eq, pieces]
  length_eq := (hleft.and hright).length_eq
  same_eq := (hleft.and hright).same_eq

theorem not (h : left.Alike left') : (Filter.not left).Alike (Filter.not left') where
  pieces_eq start := by rw [pieces, h.pieces_eq, pieces]
  length_eq := h.length_eq
  same_eq := h.same_eq

end Alike

theorem alike_of_same {equal : Value → Value → Bool} {f g : Filter} (h : f.same equal g = true)
    (hf : f.isSupported = true) : f.Alike g := by
  induction f generalizing g with
  | leaf condition =>
    cases g with
    | leaf other => exact .leaf (Leaf.alike_of_same h)
    | and | or | not | custom | plain => cases h
  | and left right ihl ihr =>
    obtain ⟨hl, hr⟩ := Bool.and_eq_true_iff.mp hf
    cases g with
    | and left' right' =>
      obtain ⟨hleft, hright⟩ := Bool.and_eq_true_iff.mp h
      exact (ihl hleft hl).and (ihr hright hr)
    | leaf | or | not | custom | plain => cases h
  | or left right ihl ihr =>
    obtain ⟨hl, hr⟩ := Bool.and_eq_true_iff.mp hf
    cases g with
    | or left' right' =>
      obtain ⟨hleft, hright⟩ := Bool.and_eq_true_iff.mp h
      exact (ihl hleft hl).or (ihr hright hr)
    | leaf | and | not | custom | plain => cases h
  | not inner ih =>
    cases g with
    | not inner' => exact (ih h hf).not
    | leaf | and | or | custom | plain => cases h
  | custom | plain => cases hf

end Filter

/-! ### Leaves from their tokens -/

/-- What follows the slots of a look-up does not go on with another slot. -/
theorem slotTokens_append_injective {start count more : Nat} {s t : List Token}
    (h : slotTokens (List.range' start (count + 1)) ++ .mark ')' :: s =
      slotTokens (List.range' start (more + 1)) ++ .mark ')' :: t) : count = more ∧ s = t := by
  induction count generalizing start more with
  | zero =>
    cases more with
    | zero => simpa [slotTokens] using h
    | succ more => simp [slotTokens, List.range'_succ] at h
  | succ count ih =>
    cases more with
    | zero => simp [slotTokens, List.range'_succ] at h
    | succ more =>
      have hrest : slotTokens (List.range' (start + 1) (count + 1)) ++ .mark ')' :: s =
          slotTokens (List.range' (start + 1) (more + 1)) ++ .mark ')' :: t := by
        simpa [slotTokens, List.range'_succ] using h
      obtain ⟨hcount, htail⟩ := ih hrest
      exact ⟨congrArg (· + 1) hcount, htail⟩

theorem Comparison.tokens_append_injective {a b : Comparison} {key key' : String} {start : Nat}
    {s t : List Token} (h : a.tokens key start ++ s = b.tokens key' start ++ t) :
    a = b ∧ key = key' ∧ s = t := by
  cases a <;> cases b <;> simp [tokens, sign] at h ⊢ <;> simp [h]

theorem Membership.tokens_append_injective {a b : Membership} {key key' : String}
    {start count more : Nat} {s t : List Token}
    (h : a.tokens key (List.range' start (count + 1)) ++ s =
      b.tokens key' (List.range' start (more + 1)) ++ t) :
    a = b ∧ key = key' ∧ count = more ∧ s = t := by
  cases a <;> cases b <;> simp only [tokens, List.cons_append, List.append_assoc, List.nil_append,
    List.cons.injEq, Token.name.injEq, true_and, reduceCtorEq, false_and] at h
  · obtain ⟨hkey, hslots⟩ := h
    exact ⟨rfl, hkey, slotTokens_append_injective hslots⟩
  · obtain ⟨hkey, -, hslots⟩ := h
    obtain ⟨hcount, htail⟩ := slotTokens_append_injective hslots
    exact ⟨rfl, hkey, hcount, (List.cons.inj htail).2⟩

theorem Comparison.tokens_append_ne (a : Comparison) (b : Membership) (key key' : String)
    (start : Nat) (indexes : List Nat) (s t : List Token) :
    a.tokens key start ++ s ≠ b.tokens key' indexes ++ t := by
  cases a <;> cases b <;> simp [tokens, Membership.tokens]

namespace Leaf

/-- The tokens of a leaf tell everything but its values, and where they end. -/
theorem alike_of_tokens_append {a b : Leaf} {start : Nat} {s t : List Token}
    (h : a.tokens start ++ s = b.tokens start ++ t) : a.Alike b ∧ s = t := by
  cases a with
  | compare operator key operand =>
    cases b with
    | compare operator' key' operand' =>
      obtain ⟨rfl, hkey, htail⟩ := Comparison.tokens_append_injective h
      exact ⟨alike_compare _ hkey _ _, htail⟩
    | member operator' key' first rest =>
      exact absurd h (operator.tokens_append_ne operator' _ _ _ _ _ _)
  | member operator key first rest =>
    cases b with
    | compare operator' key' operand =>
      exact absurd h.symm (operator'.tokens_append_ne operator _ _ _ _ _ _)
    | member operator' key' first' rest' =>
      obtain ⟨rfl, hkey, hcount, htail⟩ := Membership.tokens_append_injective h
      exact ⟨alike_member _ hkey _ _ hcount, htail⟩

/-- A leaf is in parentheses for the sake of missing keys alone. -/
theorem exists_of_tokens_append_group {leaf : Leaf} {start : Nat} {s rest : List Token}
    (h : leaf.tokens start ++ s = .mark '(' :: rest) :
    ∃ key more, rest = .name key :: .word "is" :: .word "null" :: more := by
  cases leaf with
  | compare operator key operand =>
    cases operator <;> simp [tokens, Comparison.tokens] at h
    exact ⟨_, _, h.symm⟩
  | member operator key first others =>
    cases operator <;> simp [tokens, Membership.tokens] at h
    exact ⟨_, _, h.symm⟩

theorem tokens_append_ne_not (leaf : Leaf) (start : Nat) (s rest : List Token) :
    leaf.tokens start ++ s ≠ .word "not" :: rest := by
  cases leaf with
  | compare operator key operand => cases operator <;> simp [tokens, Comparison.tokens]
  | member operator key first others => cases operator <;> simp [tokens, Membership.tokens]

/-- Without parentheses around it, a leaf does not test for null. -/
theorem tokens_append_ne_null (leaf : Leaf) (start : Nat) (key : String) (s rest : List Token) :
    leaf.tokens start ++ s ≠ .name key :: .word "is" :: .word "null" :: rest := by
  cases leaf with
  | compare operator key operand => cases operator <;> simp [tokens, Comparison.tokens]
  | member operator key first others => cases operator <;> simp [tokens, Membership.tokens]

end Leaf

/-! ### Filters from their tokens -/

namespace Filter

theorem tokens_and_append (left right : Filter) (start : Nat) (t : List Token) :
    (and left right).tokens start ++ t =
      left.tokens start ++ .word "and" :: (right.tokens (start + left.values.length) ++ t) := by
  simp [tokens]

theorem tokens_or_append (left right : Filter) (start : Nat) (t : List Token) :
    (or left right).tokens start ++ t =
      .mark '(' :: (left.tokens start ++
        .word "or" :: (right.tokens (start + left.values.length) ++ .mark ')' :: t)) := by
  simp [tokens]

theorem tokens_not_append (inner : Filter) (start : Nat) (t : List Token) :
    (not inner).tokens start ++ t =
      .word "not" :: .mark '(' :: (inner.tokens start ++ .mark ')' :: t) := by
  simp [tokens]

theorem tokens_append_ne_null {f : Filter} (hf : f.isSupported = true) (start : Nat) (key : String)
    (s rest : List Token) :
    f.tokens start ++ s ≠ .name key :: .word "is" :: .word "null" :: rest := by
  induction f generalizing start s with
  | leaf condition => exact condition.tokens_append_ne_null start key s rest
  | and left right ihl _ =>
    rw [tokens_and_append]
    exact ihl (Bool.and_eq_true_iff.mp hf).1 start _
  | or | not => simp [tokens]
  | custom | plain => cases hf

theorem tokens_leaf_append_ne_or (condition : Leaf) {left : Filter}
    (hleft : left.isSupported = true) (right : Filter) (start : Nat) (s t : List Token) :
    (leaf condition).tokens start ++ s ≠ (or left right).tokens start ++ t := by
  -- Both may be in parentheses, but only in the leaf these begin with a test for null.
  intro h
  rw [tokens_or_append] at h
  obtain ⟨key, more, hgroup⟩ := Leaf.exists_of_tokens_append_group h
  exact tokens_append_ne_null hleft start key _ more hgroup

/-- The tokens of a link tell the link but for its values, whatever comes after them. -/
def LinkIsTold (f : Filter) : Prop :=
  ∀ ⦃g : Filter⦄, g.isSupported = true → g.isChained = true → g.isLink = true →
    ∀ ⦃start : Nat⦄ ⦃s t : List Token⦄, f.tokens start ++ s = g.tokens start ++ t →
      f.Alike g ∧ s = t

/-- The tokens of a chain tell the chain but for its values, unless another link comes after them. -/
def ChainIsTold (f : Filter) : Prop :=
  ∀ ⦃g : Filter⦄, g.isSupported = true → g.isChained = true →
    ∀ ⦃start : Nat⦄ ⦃s t : List Token⦄, s.head? ≠ some (.word "and") →
      t.head? ≠ some (.word "and") → f.tokens start ++ s = g.tokens start ++ t →
      f.Alike g ∧ s = t

theorem linkIsTold_leaf (condition : Leaf) : (leaf condition).LinkIsTold := by
  intro g hg _ hlink start s t h
  cases g with
  | leaf other =>
    obtain ⟨halike, htail⟩ := Leaf.alike_of_tokens_append h
    exact ⟨.leaf halike, htail⟩
  | and => cases hlink
  | or left right =>
    have hleft : left.isSupported = true := (Bool.and_eq_true_iff.mp hg).1
    exact absurd h (tokens_leaf_append_ne_or condition hleft right start s t)
  | not inner =>
    rw [tokens_not_append] at h
    exact absurd h (condition.tokens_append_ne_not start s _)
  | custom | plain => cases hg

theorem linkIsTold_or {left right : Filter} (hleft : left.isSupported = true)
    (hl : left.ChainIsTold) (hr : right.ChainIsTold) : (or left right).LinkIsTold := by
  intro g hg hchained hlink start s t h
  cases g with
  | leaf condition =>
    exact absurd h.symm (tokens_leaf_append_ne_or condition hleft right start t s)
  | and => cases hlink
  | or left' right' =>
    obtain ⟨hleft', hright'⟩ := Bool.and_eq_true_iff.mp hg
    obtain ⟨hchainl, hchainr⟩ := Bool.and_eq_true_iff.mp hchained
    rw [tokens_or_append, tokens_or_append] at h
    obtain ⟨halikel, hrest⟩ := hl hleft' hchainl (by simp) (by simp) (List.cons.inj h).2
    rw [halikel.length_eq] at hrest
    obtain ⟨haliker, htail⟩ := hr hright' hchainr (by simp) (by simp) (List.cons.inj hrest).2
    exact ⟨halikel.or haliker, (List.cons.inj htail).2⟩
  | not inner => simp [tokens] at h
  | custom | plain => cases hg

theorem linkIsTold_not {inner : Filter} (hi : inner.ChainIsTold) : (not inner).LinkIsTold := by
  intro g hg hchained hlink start s t h
  cases g with
  | leaf condition =>
    rw [tokens_not_append] at h
    exact absurd h.symm (condition.tokens_append_ne_not start t _)
  | and => cases hlink
  | or left right => simp [tokens] at h
  | not inner' =>
    rw [tokens_not_append, tokens_not_append] at h
    have hinner := (List.cons.inj (List.cons.inj h).2).2
    obtain ⟨halike, htail⟩ := @hi inner' hg hchained _ _ _ (by simp) (by simp) hinner
    exact ⟨halike.not, (List.cons.inj htail).2⟩
  | custom | plain => cases hg

/-- After the tokens of a link, a chain has another link or ends. -/
theorem LinkIsTold.chain {f : Filter} (hf : f.LinkIsTold) : f.ChainIsTold := by
  intro g hg hchained start s t hs _ h
  cases hlink : g.isLink with
  | true => exact hf hg hchained hlink h
  | false =>
    cases g with
    | and left right =>
      obtain ⟨hfirst, -⟩ := Bool.and_eq_true_iff.mp hchained
      obtain ⟨hlinkl, hchainl⟩ := Bool.and_eq_true_iff.mp hfirst
      rw [tokens_and_append] at h
      obtain ⟨-, htail⟩ := hf (Bool.and_eq_true_iff.mp hg).1 hchainl hlinkl h
      exact absurd (congrArg List.head? htail) hs
    | leaf | or | not | custom | plain => cases hlink

theorem LinkIsTold.and {left right : Filter} (hl : left.LinkIsTold) (hr : right.ChainIsTold) :
    (and left right).ChainIsTold := by
  intro g hg hchained start s t hs ht h
  rw [tokens_and_append] at h
  cases hlink : g.isLink with
  | true =>
    obtain ⟨-, htail⟩ := hl hg hchained hlink h
    exact absurd (congrArg List.head? htail.symm) ht
  | false =>
    cases g with
    | and left' right' =>
      obtain ⟨hleft', hright'⟩ := Bool.and_eq_true_iff.mp hg
      obtain ⟨hfirst, hchainr⟩ := Bool.and_eq_true_iff.mp hchained
      obtain ⟨hlinkl, hchainl⟩ := Bool.and_eq_true_iff.mp hfirst
      rw [tokens_and_append] at h
      obtain ⟨halikel, hrest⟩ := hl hleft' hchainl hlinkl h
      rw [halikel.length_eq] at hrest
      obtain ⟨haliker, htail⟩ := hr hright' hchainr hs ht (List.cons.inj hrest).2
      exact ⟨halikel.and haliker, htail⟩
    | leaf | or | not | custom | plain => cases hlink

theorem isTold {f : Filter} (hf : f.isSupported = true) (hchained : f.isChained = true) :
    (f.isLink = true → f.LinkIsTold) ∧ f.ChainIsTold := by
  -- A link is told by the chains inside it, and a chain by its first link and the chain after it.
  induction f with
  | leaf condition =>
    have hlink := linkIsTold_leaf condition
    exact ⟨fun _ => hlink, hlink.chain⟩
  | and left right ihl ihr =>
    obtain ⟨hleft, hright⟩ := Bool.and_eq_true_iff.mp hf
    obtain ⟨hfirst, hchainr⟩ := Bool.and_eq_true_iff.mp hchained
    obtain ⟨hlinkl, hchainl⟩ := Bool.and_eq_true_iff.mp hfirst
    exact ⟨nofun, ((ihl hleft hchainl).1 hlinkl).and (ihr hright hchainr).2⟩
  | or left right ihl ihr =>
    obtain ⟨hleft, hright⟩ := Bool.and_eq_true_iff.mp hf
    obtain ⟨hchainl, hchainr⟩ := Bool.and_eq_true_iff.mp hchained
    have hlink := linkIsTold_or hleft (ihl hleft hchainl).2 (ihr hright hchainr).2
    exact ⟨fun _ => hlink, hlink.chain⟩
  | not inner ih =>
    have hlink := linkIsTold_not (ih hf hchained).2
    exact ⟨fun _ => hlink, hlink.chain⟩
  | custom | plain => cases hf

/-- The text of a predicate tells its filter, but for values and the grouping of chains. -/
theorem alike_chained_of_render_eq {f g : Filter} (hf : f.isSupported = true)
    (hg : g.isSupported = true) {start : Nat}
    (h : render (f.pieces start) = render (g.pieces start)) : f.chained.Alike g.chained := by
  rw [f.regrouped_chained.isSupported_eq] at hf
  rw [g.regrouped_chained.isSupported_eq] at hg
  rw [f.regrouped_chained.pieces_eq, g.regrouped_chained.pieces_eq] at h
  have hlex : some (f.chained.tokens start) = some (g.chained.tokens start) := by
    rw [← lex?_pieces hf, ← lex?_pieces hg, h]
  have htokens : f.chained.tokens start ++ [] = g.chained.tokens start ++ [] :=
    congrArg (· ++ []) (Option.some.inj hlex)
  have htold := (isTold hf f.isChained_chained).2
  exact (htold hg g.isChained_chained (by simp) (by simp) htokens).1

/-- Two predicates have the same text and equal values if and only if their filters are equal once every chain is grouped to the right, whichever values count as equal. Equal filters have such predicates in any case. -/
theorem predicate_same_iff {f g : Filter} (hf : f.isSupported = true) (hg : g.isSupported = true)
    {start : Int} (hstart : 1 ≤ start) :
    ∃ p q, f.predicate start = .ok p ∧ g.predicate start = .ok q ∧
      ∀ equal : Value → Value → Bool,
        (p.sql = q.sql ∧ p.values.isEqv q.values equal = true ↔
          f.chained.same equal g.chained = true) ∧
        (f.same equal g = true → p.sql = q.sql ∧ p.values.isEqv q.values equal = true) := by
  obtain ⟨first, rfl⟩ := Int.eq_ofNat_of_zero_le (Int.le_trans (by decide) hstart)
  have hregrouped := f.regrouped_chained
  have hregrouped' := g.regrouped_chained
  refine ⟨_, _, predicate_eq hf first, predicate_eq hg first, fun equal => ⟨⟨?_, ?_⟩, ?_⟩⟩
  · rintro ⟨hsql, hvalues⟩
    have halike := alike_chained_of_render_eq hf hg hsql
    rw [halike.same_eq, ← hregrouped.values_eq, ← hregrouped'.values_eq]
    exact hvalues
  · intro h
    have halike := alike_of_same h (hregrouped.isSupported_eq ▸ hf)
    have hpieces := halike.pieces_eq first
    rw [halike.same_eq, ← hregrouped.values_eq, ← hregrouped'.values_eq] at h
    rw [← hregrouped.pieces_eq, ← hregrouped'.pieces_eq] at hpieces
    exact ⟨congrArg render hpieces, h⟩
  · intro h
    have halike := alike_of_same h hf
    exact ⟨congrArg render (halike.pieces_eq first), halike.same_eq equal ▸ h⟩

theorem predicate_same_iff_grouping :
    let equal := leaf (.compare .equal ⟨"a\" AND \"b", by decide⟩ ⟨.int 1, rfl⟩)
    let same := leaf (.compare .equal ⟨"a\" AND \"b", by decide⟩ ⟨.bool true, rfl⟩)
    let among := leaf (.member .among ⟨"c", by decide⟩ ⟨.int 2, rfl⟩ [⟨.int 3, rfl⟩])
    let f := and (and equal among) (not among)
    let g := and same (and among (not among))
    f.isSupported = true ∧ g.isSupported = true ∧ (1 : Int) ≤ 4 ∧ f.same Value.same g = false ∧
      ∃ p q, f.predicate 4 = .ok p ∧ g.predicate 4 = .ok q ∧ p.sql = q.sql ∧
        p.values.isEqv q.values Value.same = true := by
  intro equal same among f g
  have hf : f.isSupported = true := rfl
  have hg : g.isSupported = true := rfl
  refine ⟨hf, hg, by decide, rfl, ?_⟩
  obtain ⟨p, q, hp, hq, hiff⟩ := predicate_same_iff hf hg (by decide : (1 : Int) ≤ 4)
  have hchained : f.chained.same Value.same g.chained = true := by decide
  exact ⟨p, q, hp, hq, (hiff Value.same).1.mpr hchained⟩

end Filter

end VectorTable
