import GuestImage.Failure.Basic
import Mathlib.Tactic.SplitIfs

/-!
# What annotations leave of a context

A key has the first text it was given that is not empty, be it from the start or by one of the
annotations after (`Context.lookup_annotate`), and the keys stand in the order in which they came
(`Context.keys_annotate`). Nothing but the context of a fault is changed. So an annotation that was
made may be made again, and of two without a common key either may be made first
(`Failure.annotate_keepsFirst`).
-/

namespace GuestImage

namespace Context

/-- The texts that pairs give to a key, in their order. -/
def textsOf (key : String) (pairs : List (String × String)) : List String :=
  (pairs.filter (·.1 = key)).map Prod.snd

/-- The first of some texts that is not empty, or the empty text if they all are. There is none of
no texts. -/
def firstKnown? : List String → Option String
  | [] => none
  | text :: more => some (((text :: more).find? (!·.isEmpty)).getD "")

section Texts

variable {key known : String} {texts : List String} {pairs : List (String × String)}

theorem firstKnown?_singleton (text : String) : firstKnown? [text] = some text := by
  by_cases h : text.isEmpty = true
  · simp [firstKnown?, String.isEmpty_iff.1 h]
  · simp [firstKnown?, h]

/-- Of texts that were chosen from already, only the chosen one matters. -/
theorem firstKnown?_append (texts more : List String) :
    firstKnown? (texts ++ more) = firstKnown? ((firstKnown? texts).toList ++ more) := by
  cases texts with
  | nil => rfl
  | cons text texts =>
    rw [List.cons_append, firstKnown?, firstKnown?, ← List.cons_append, List.find?_append]
    rcases hfind : (text :: texts).find? (!·.isEmpty) with _ | first
    · simp [firstKnown?, hfind]
    · have hfirst := List.find?_some hfind
      simp [firstKnown?, hfind, hfirst]

/-- If an empty text is chosen, there is no other. -/
theorem eq_empty_of_firstKnown? (h : firstKnown? texts = some known)
    (hknown : known.isEmpty = true) : ∀ text ∈ texts, text = "" := by
  cases texts with
  | nil => nofun
  | cons first texts =>
    rw [firstKnown?, Option.some.injEq] at h
    rcases hfind : (first :: texts).find? (!·.isEmpty) with _ | text
    · simpa using hfind
    · have htext := List.find?_some hfind
      rw [hfind, Option.getD_some] at h
      rw [h, hknown] at htext
      cases htext

theorem exists_firstKnown? {text : String} (h : text ∈ texts) :
    ∃ known, firstKnown? texts = some known := by
  cases texts with
  | nil => cases h
  | cons => exact ⟨_, rfl⟩

theorem mem_textsOf {p : String × String} (h : p ∈ pairs) : p.2 ∈ textsOf p.1 pairs :=
  List.mem_map.2 ⟨p, by simpa using h, rfl⟩

theorem textsOf_eq_nil (h : ∀ p ∈ pairs, p.1 ≠ key) : textsOf key pairs = [] := by
  rw [textsOf, List.map_eq_nil_iff, List.filter_eq_nil_iff]
  simpa using h

end Texts

section Annotate

variable {key value : String} {l pairs qs : List (String × String)}

theorem lookup_fill (p : String × String) (key : String) (l : List (String × String)) :
    (fill p.1 p.2 l).lookup key = firstKnown? ((l.lookup key).toList ++ textsOf key [p]) := by
  by_cases h : key = p.1
  · subst h
    have htexts : textsOf p.1 [p] = [p.2] := by simp [textsOf]
    rw [lookup_fill_self, htexts]
    rcases l.lookup p.1 with _ | known
    · exact (firstKnown?_singleton p.2).symm
    · by_cases hknown : known.isEmpty = true
      · have hempty : firstKnown? [known, p.2] = firstKnown? [p.2] := by
          simp [firstKnown?, hknown]
        rw [Option.toList_some, List.singleton_append, hempty, firstKnown?_singleton]
        simp [hknown]
      · simp [firstKnown?, hknown]
  · have htexts : textsOf key [p] = [] := textsOf_eq_nil (by simpa using Ne.symm h)
    rw [lookup_fill_of_ne p.2 h, htexts, List.append_nil]
    rcases l.lookup key with _ | known
    · rfl
    · exact (firstKnown?_singleton known).symm

/-- A key has the first text it was given that is not empty. -/
theorem lookup_annotate (c : Context) (pairs : List (String × String)) (key : String) :
    (c.annotate pairs).get? key = firstKnown? ((c.get? key).toList ++ textsOf key pairs) := by
  induction pairs generalizing c with
  | nil =>
    rw [annotate_nil, show textsOf key [] = [] from rfl, List.append_nil]
    rcases c.get? key with _ | known
    · rfl
    · exact (firstKnown?_singleton known).symm
  | cons p pairs ih =>
    have htexts : textsOf key (p :: pairs) = textsOf key [p] ++ textsOf key pairs := by
      rw [textsOf, textsOf, textsOf, ← List.map_append, ← List.filter_append,
        List.singleton_append]
    rw [← List.singleton_append, annotate_append, ih, List.singleton_append, htexts,
      ← List.append_assoc, firstKnown?_append (_ ++ _)]
    exact congrArg (fun o => firstKnown? (o.toList ++ _)) (lookup_fill p key c.pairs)

/-- The keys stand in the order in which they came. -/
theorem keys_annotate (c : Context) (pairs : List (String × String)) :
    (c.annotate pairs).keys =
      c.keys ++ ((pairs.map Prod.fst).filter (· ∉ c.keys)).eraseDups := by
  induction pairs generalizing c with
  | nil => simp
  | cons p pairs ih =>
    have hfirst : (c.annotate [p]).keys =
        if p.1 ∈ c.keys then c.keys else c.keys ++ [p.1] := map_fst_fill p.1 p.2 c.pairs
    have hother : (pairs.map Prod.fst).filter (· ∉ c.keys ++ [p.1]) =
        ((pairs.map Prod.fst).filter (· ∉ c.keys)).filter (fun key => !key == p.1) := by
      rw [List.filter_filter]
      refine List.filter_congr fun key _ => ?_
      by_cases hkey : key = p.1
      · simp [hkey]
      · simp [hkey]
    rw [← List.singleton_append, annotate_append, ih, hfirst, List.singleton_append, List.map_cons]
    split_ifs with hold
    · rw [List.filter_cons_of_neg (by simpa using hold)]
    · rw [List.filter_cons_of_pos (by simpa using hold), List.eraseDups_cons, hother,
        List.append_assoc, List.singleton_append]

/-- What is empty is filled in where it stands, and what is known stays. -/
example : (⟨[("operation", "parse"), ("image", "")]⟩ : Context).annotate
    [("tool", ""), ("image", "a"), ("operation", "estimate")] =
      ⟨[("operation", "parse"), ("image", "a"), ("tool", "")]⟩ := by decide

theorem fill_eq_self {known : String} (h : l.lookup key = some known)
    (hvalue : known.isEmpty = true → value = "") : fill key value l = l := by
  induction l with
  | nil => cases h
  | cons p l ih =>
    obtain ⟨k, v⟩ := p
    by_cases hk : k = key
    · subst hk
      obtain rfl : v = known := by simpa using h
      by_cases hv : v.isEmpty = true
      · simp [fill, hvalue hv, String.isEmpty_iff.1 hv]
      · simp [fill, hv]
    · have hkey : (key == k) = false := by simpa using Ne.symm hk
      rw [List.lookup_cons, hkey] at h
      simp only [fill, hk, if_false, ih h]

theorem annotate_eq_self {c : Context} (h : ∀ p ∈ pairs, ∃ known, c.get? p.1 = some known ∧
    (known.isEmpty = true → p.2 = "")) : c.annotate pairs = c := by
  induction pairs with
  | nil => rfl
  | cons p pairs ih =>
    obtain ⟨known, hknown, hvalue⟩ := h p List.mem_cons_self
    have hfill : c.annotate [p] = c := congrArg Context.mk (fill_eq_self hknown hvalue)
    rw [← List.singleton_append, annotate_append, hfill]
    exact ih fun q hq => h q (List.mem_cons_of_mem p hq)

/-- Pairs that were filled in before give nothing new. -/
theorem annotate_again (c : Context) (h : ∀ p ∈ qs, p ∈ pairs) :
    (c.annotate pairs).annotate qs = c.annotate pairs := by
  refine annotate_eq_self fun p hp => ?_
  have hmem : p.2 ∈ (c.get? p.1).toList ++ textsOf p.1 pairs :=
    List.mem_append_right _ (mem_textsOf (h p hp))
  obtain ⟨known, hknown⟩ := exists_firstKnown? hmem
  exact ⟨known, (lookup_annotate c pairs p.1).trans hknown,
    fun hempty => eq_empty_of_firstKnown? hknown hempty p.2 hmem⟩

theorem get?_annotate_comm (c : Context) (h : ∀ p ∈ pairs, ∀ q ∈ qs, p.1 ≠ q.1) (key : String) :
    ((c.annotate pairs).annotate qs).get? key = ((c.annotate qs).annotate pairs).get? key := by
  -- at most one of the two gives texts to the key
  have hnone : textsOf key pairs = [] ∨ textsOf key qs = [] := by
    by_cases hkey : ∃ p ∈ pairs, p.1 = key
    · obtain ⟨p, hp, rfl⟩ := hkey
      exact .inr (textsOf_eq_nil fun q hq => (h p hp q hq).symm)
    · exact .inl (textsOf_eq_nil fun p hp hk => hkey ⟨p, hp, hk⟩)
  rw [lookup_annotate, lookup_annotate, lookup_annotate, lookup_annotate,
    ← firstKnown?_append, ← firstKnown?_append]
  rcases hnone with hnone | hnone
  · simp [hnone]
  · simp [hnone]

end Annotate

end Context

namespace Failure

/-- What is left of a fault of a stage by annotations, each with pairs of its own. -/
structure Annotated (f : StageFault) (calls : List (List (String × String))) (f' : StageFault) :
    Prop where
  /-- Nothing but the context is changed. -/
  same : f' = { f with context := f'.context }
  texts : ∀ key, f'.context.get? key =
    Context.firstKnown? ((f.context.get? key).toList ++ Context.textsOf key calls.flatten)
  keys : f'.context.keys = f.context.keys ++
    ((calls.flatten.map Prod.fst).filter (· ∉ f.context.keys)).eraseDups
  again : ∀ call ∈ calls, f'.annotate call = f'
  either : ∀ pairs qs : List (String × String), (∀ p ∈ pairs, ∀ q ∈ qs, p.1 ≠ q.1) → ∀ key,
    ((f'.annotate pairs).annotate qs).context.get? key =
      ((f'.annotate qs).annotate pairs).context.get? key

theorem foldl_annotate (calls : List (List (String × String))) (f : StageFault)
    (causes : List Fault) :
    calls.foldl annotate ⟨.stage f, causes⟩ = ⟨.stage (f.annotate calls.flatten), causes⟩ := by
  induction calls generalizing f with
  | nil => rfl
  | cons call calls ih =>
    rw [List.foldl_cons, List.flatten_cons]
    refine (ih (f.annotate call)).trans ?_
    simp only [StageFault.annotate, Context.annotate_append]

/-- Any number of annotations fill in what is not known of a fault, in order of time, and take
nothing back. -/
theorem annotate_keepsFirst (f : StageFault) (causes : List Fault)
    (calls : List (List (String × String))) :
    ∃ f', calls.foldl annotate ⟨.stage f, causes⟩ = ⟨.stage f', causes⟩ ∧
      Annotated f calls f' := by
  refine ⟨_, foldl_annotate calls f causes, rfl, ?_, ?_, fun call hcall => ?_, ?_⟩
  · exact Context.lookup_annotate f.context calls.flatten
  · exact Context.keys_annotate f.context calls.flatten
  · have hagain : (f.context.annotate calls.flatten).annotate call =
        f.context.annotate calls.flatten :=
      Context.annotate_again f.context fun p hp => List.mem_flatten.2 ⟨call, hcall, hp⟩
    exact congrArg (fun c => { f with context := c }) hagain
  · intro pairs qs hdisjoint
    exact Context.get?_annotate_comm _ hdisjoint

end Failure

end GuestImage
