/-
  Proofs/Words.lean --- which word a text is read as.

  A text is read as the word whose value it is; failing that, as the first word whose value it is
  in any case; failing that, as the word of the first name that it is in any case, aliases
  included; and else it is refused.  So every word is read back from its value, aliases change
  nothing for what is a value, and a vocabulary accepts just what it reads (`readsLeniently`).

  LOOKING UP.  A vocabulary does not look at its words but at an index of their values, in which an
  alias takes over the name of its word and leaves its place.  The index lists the words in order
  (`map_fst_lastNames`), and each name in it leads back to its word (`named?_of_mem_lastNames`),
  which is all that the rules above need.

  OPERATIONS IN PLACE.  A vocabulary whose entries include one with the name of an operation has a
  word where the operation was, and cannot carry it out (`unread_shadowed`).
-/
import Mathlib.Data.List.Find
import Mathlib.Data.List.Induction
import Mathlib.Data.List.Nodup
import QueryStream.Vocabulary

set_option autoImplicit false

namespace QueryStream

theorem Value.sameKey_text (a : Value) (s : String) :
    a.sameKey (.text s) = a.same (.text s) := by
  cases a <;> simp [same, sameKey, magnitude?]

namespace Vocabulary

/-! ## Vocabularies of texts -/

/-- The values are texts, and the operations and the property they look at are in place. -/
structure IsPlain (v : Vocabulary) : Prop where
  texts : ∀ w ∈ v.entries, ∃ s, w.value = .text s
  reads : v.lacks readingName = false
  looksUp : v.lacks lookUpName = false
  shows : v.standIns.lookup valueProperty = none

/-- Whether a text is the value of a word. -/
def isValue (s : String) (w : Word) : Bool := w.value.same (.text s)

/-- Whether a text is the value of a word, in any case. -/
def isValueInAnyCase (s : String) (w : Word) : Bool :=
  match w.value with
  | .text t => Text.lowercase t == Text.lowercase s
  | _ => false

/-- Whether a text is a name, in any case. -/
def isNameInAnyCase (s : String) (w : Word) : Bool := Text.lowercase w.name == Text.lowercase s

/-- The word that a text is to be read as. -/
def reading? (v : Vocabulary) (s : String) : Option Word :=
  (v.words.find? (isValue s)).or
    ((v.words.find? (isValueInAnyCase s)).or
      ((v.entries.find? (isNameInAnyCase s)).map v.wordOf))

section Plain

variable {v : Vocabulary} {w x m : Word} {s t : String}

theorem eq_of_name_eq (mem : w ∈ v.entries) (mem' : x ∈ v.entries) (same : w.name = x.name) :
    w = x :=
  List.inj_on_of_nodup_map v.distinct mem mem' same

theorem IsPlain.same_iff (plain : v.IsPlain) (mem : w ∈ v.entries) (mem' : x ∈ v.entries) :
    w.value.same x.value = true ↔ w.value = x.value := by
  obtain ⟨s, hs⟩ := plain.texts w mem
  obtain ⟨t, ht⟩ := plain.texts x mem'
  simp [hs, ht, Value.same, Value.sameKey]

theorem IsPlain.find?_wordOf (plain : v.IsPlain) (mem : w ∈ v.entries) :
    v.entries.find? (fun x => x.value.same w.value) = some (v.wordOf w) := by
  have byValue : ∀ x ∈ v.entries,
      (x.name == w.name || x.value.same w.value) = x.value.same w.value := by
    intro x mem'
    by_cases same : x.name = w.name
    · obtain rfl := eq_of_name_eq mem' mem same
      simp [(plain.same_iff mem mem).2 rfl]
    · simp [same]
  have found : (v.entries.find? fun x => x.value.same w.value).isSome = true :=
    List.find?_isSome.2 ⟨w, mem, (plain.same_iff mem mem).2 rfl⟩
  rw [wordOf, List.find?_congr byValue]
  obtain ⟨m, hm⟩ := Option.isSome_iff_exists.1 found
  rw [hm, Option.getD_some]

theorem IsPlain.wordOf_mem (plain : v.IsPlain) (mem : w ∈ v.entries) : v.wordOf w ∈ v.entries :=
  List.mem_of_find?_eq_some (plain.find?_wordOf mem)

theorem IsPlain.value_wordOf (plain : v.IsPlain) (mem : w ∈ v.entries) :
    (v.wordOf w).value = w.value := by
  have found := plain.find?_wordOf mem
  have same : (v.wordOf w).value.same w.value = true :=
    List.find?_some (p := fun x : Word => x.value.same w.value) found
  exact (plain.same_iff (plain.wordOf_mem mem) mem).1 same

theorem IsPlain.wordOf_congr (plain : v.IsPlain) (mem : w ∈ v.entries) (mem' : x ∈ v.entries)
    (same : w.value = x.value) : v.wordOf w = v.wordOf x := by
  have found := plain.find?_wordOf mem
  rw [same, plain.find?_wordOf mem'] at found
  exact (Option.some.inj found).symm

theorem IsPlain.wordOf_wordOf (plain : v.IsPlain) (mem : w ∈ v.entries) :
    v.wordOf (v.wordOf w) = v.wordOf w :=
  plain.wordOf_congr (plain.wordOf_mem mem) mem (plain.value_wordOf mem)

theorem IsPlain.isOwn_iff (plain : v.IsPlain) (mem : w ∈ v.entries) :
    (w.name == (v.wordOf w).name) = true ↔ v.wordOf w = w :=
  ⟨fun same => (eq_of_name_eq mem (plain.wordOf_mem mem) (beq_iff_eq.1 same)).symm,
    fun same => by rw [same, beq_self_eq_true]⟩

theorem IsPlain.words_eq_filter (plain : v.IsPlain) :
    v.words = v.entries.filter fun w => w.name == (v.wordOf w).name := by
  have own : ∀ w ∈ v.entries.filter (fun w => w.name == (v.wordOf w).name), v.wordOf w = w := by
    intro w mem
    obtain ⟨mem, same⟩ := List.mem_filter.1 mem
    exact (plain.isOwn_iff mem).1 same
  rw [words, names, List.filter_map, List.map_map]
  exact (List.map_congr_left own).trans (List.map_id _)

theorem IsPlain.mem_words_iff (plain : v.IsPlain) :
    m ∈ v.words ↔ m ∈ v.entries ∧ v.wordOf m = m := by
  rw [plain.words_eq_filter, List.mem_filter]
  exact and_congr_right fun mem => plain.isOwn_iff mem

theorem IsPlain.wordOf_mem_words (plain : v.IsPlain) (mem : w ∈ v.entries) :
    v.wordOf w ∈ v.words :=
  plain.mem_words_iff.2 ⟨plain.wordOf_mem mem, plain.wordOf_wordOf mem⟩

theorem IsPlain.eq_of_value_eq (plain : v.IsPlain) (mem : m ∈ v.words) (mem' : x ∈ v.words)
    (same : m.value = x.value) : m = x := by
  obtain ⟨mem, own⟩ := plain.mem_words_iff.1 mem
  obtain ⟨mem', own'⟩ := plain.mem_words_iff.1 mem'
  rw [← own, ← own', plain.wordOf_congr mem mem' same]

/-! ## The index -/

section Enter

variable {index : List (Word × String)} {n : String}

/-- A word that is in the index keeps its place. -/
theorem map_fst_enter_of_mem (known : ∃ e ∈ index, e.1.name = m.name) :
    (enter index (n, m)).map Prod.fst = index.map Prod.fst := by
  induction index with
  | nil =>
      obtain ⟨e, mem, -⟩ := known
      cases mem
  | cons first rest ih =>
      unfold enter
      split
      · rfl
      · rename_i other
        obtain ⟨e, mem, same⟩ := known
        rcases List.mem_cons.1 mem with rfl | later
        · exact absurd (beq_iff_eq.2 same) other
        · rw [List.map_cons, List.map_cons, ih ⟨e, later, same⟩]

theorem enter_of_forall_ne (new : ∀ e ∈ index, e.1.name ≠ m.name) :
    enter index (n, m) = index ++ [(m, n)] := by
  induction index with
  | nil => rfl
  | cons first rest ih =>
      have other : ¬ (first.1.name == m.name) = true := fun same =>
        new first (List.mem_cons_self ..) (beq_iff_eq.1 same)
      unfold enter
      rw [if_neg other, ih fun e mem => new e (List.mem_cons_of_mem _ mem), List.cons_append]

theorem of_mem_enter {e : Word × String} (mem : e ∈ enter index (n, m)) :
    e ∈ index ∨ e.1.name = m.name ∧ e.2 = n := by
  induction index with
  | nil =>
      obtain rfl := List.mem_singleton.1 mem
      exact .inr ⟨rfl, rfl⟩
  | cons first rest ih =>
      unfold enter at mem
      split at mem
      · rename_i same
        rcases List.mem_cons.1 mem with rfl | later
        · exact .inr ⟨beq_iff_eq.1 same, rfl⟩
        · exact .inl (List.mem_cons_of_mem _ later)
      · rcases List.mem_cons.1 mem with rfl | later
        · exact .inl (List.mem_cons_self ..)
        · exact (ih later).imp_left (List.mem_cons_of_mem _)

end Enter

/-- The word of an entry is that entry, or comes before it. -/
theorem IsPlain.wordOf_mem_of_append (plain : v.IsPlain) {before after : List Word}
    (split : v.entries = before ++ x :: after) : v.wordOf x ∈ before ∨ v.wordOf x = x := by
  have mem : x ∈ v.entries := by simp [split]
  have found := plain.find?_wordOf mem
  rw [split, List.find?_append] at found
  cases early : before.find? fun y => y.value.same x.value with
  | some y =>
      rw [early, Option.some_or] at found
      exact .inl (Option.some.inj found ▸ List.mem_of_find?_eq_some early)
  | none =>
      have self : x.value.same x.value = true := (plain.same_iff mem mem).2 rfl
      rw [early, Option.none_or, List.find?_cons, self] at found
      exact .inr (Option.some.inj found).symm

theorem IsPlain.not_mem_of_append (_ : v.IsPlain) {before after : List Word}
    (split : v.entries = before ++ x :: after) : x ∉ before := by
  have distinct := v.distinct.of_map
  rw [split] at distinct
  exact fun mem => List.disjoint_of_nodup_append distinct mem (List.mem_cons_self ..)

/-- The entries that are words of their own. -/
def ownOf (v : Vocabulary) (entries : List Word) : List Word :=
  entries.filter fun w => w.name == (v.wordOf w).name

/-- Entering one more entry, the index goes on listing the words in order. -/
theorem IsPlain.map_fst_enter (plain : v.IsPlain) {before after : List Word}
    {index : List (Word × String)} (split : v.entries = before ++ x :: after)
    (listed : index.map Prod.fst = v.ownOf before) :
    (enter index (x.name, v.wordOf x)).map Prod.fst = v.ownOf (before ++ [x]) := by
  have mem : x ∈ v.entries := by simp [split]
  have earlier : ∀ w ∈ before, w ∈ v.entries := fun w mem => by simp [split, mem]
  have grown : v.ownOf (before ++ [x])
      = v.ownOf before ++ if x.name == (v.wordOf x).name then [x] else [] := by
    simp [ownOf, List.filter_cons]
  by_cases own : v.wordOf x = x
  · -- A word of its own is new, since the entries before have other names.
    have new : ∀ e ∈ index, e.1.name ≠ (v.wordOf x).name := by
      intro e mem' same
      have mem'' : e.1 ∈ v.ownOf before := listed ▸ List.mem_map_of_mem mem'
      have former : e.1 ∈ before := (List.mem_filter.1 mem'').1
      rw [own] at same
      exact plain.not_mem_of_append split (eq_of_name_eq (earlier _ former) mem same ▸ former)
    rw [enter_of_forall_ne new, List.map_append, listed, grown,
      if_pos ((plain.isOwn_iff mem).2 own), own]
    rfl
  · -- The word of an alias came before.
    have former := (plain.wordOf_mem_of_append split).resolve_right own
    have indexed : v.wordOf x ∈ index.map Prod.fst := by
      rw [listed]
      exact List.mem_filter.2
        ⟨former, (plain.isOwn_iff (plain.wordOf_mem mem)).2 (plain.wordOf_wordOf mem)⟩
    obtain ⟨e, mem', here⟩ := List.mem_map.1 indexed
    have foreign : ¬ (x.name == (v.wordOf x).name) = true := fun same =>
      own ((plain.isOwn_iff mem).1 same)
    rw [map_fst_enter_of_mem ⟨e, mem', by rw [here]⟩, listed, grown, if_neg foreign,
      List.append_nil]

/-- Of entries that were entered, the index has the words in order, each under the name of an
entry whose word it is. -/
theorem IsPlain.index_of_prefix (plain : v.IsPlain) {before after : List Word}
    (split : v.entries = before ++ after) :
    (((before.map fun w => (w.name, v.wordOf w)).foldl enter []).map Prod.fst = v.ownOf before) ∧
      ∀ e ∈ (before.map fun w => (w.name, v.wordOf w)).foldl enter [],
        ∃ w ∈ before, w.name = e.2 ∧ v.wordOf w = e.1 := by
  induction before using List.reverseRecOn generalizing after with
  | nil => exact ⟨rfl, fun e mem => by cases mem⟩
  | append_singleton before x ih =>
      have split' : v.entries = before ++ x :: after := by rw [split, List.append_assoc]; rfl
      obtain ⟨listed, leads⟩ := ih split'
      have listed' := plain.map_fst_enter split' listed
      rw [List.map_append, List.map_singleton, List.foldl_append, List.foldl_cons, List.foldl_nil]
      refine ⟨listed', fun e mem => ?_⟩
      rcases of_mem_enter mem with former | ⟨same, named⟩
      · obtain ⟨w, mem', lead⟩ := leads e former
        exact ⟨w, List.mem_append_left _ mem', lead⟩
      · have own : e.1 ∈ v.ownOf (before ++ [x]) := listed' ▸ List.mem_map_of_mem mem
        have mem' : e.1 ∈ v.entries := by
          rw [split]
          exact List.mem_append_left _ (List.mem_filter.1 own).1
        have here : x ∈ v.entries := by simp [split']
        exact ⟨x, by simp, named.symm, (eq_of_name_eq mem' (plain.wordOf_mem here) same).symm⟩

theorem IsPlain.map_fst_lastNames (plain : v.IsPlain) : v.lastNames.map Prod.fst = v.words := by
  rw [plain.words_eq_filter]
  exact (plain.index_of_prefix (List.append_nil _).symm).1

theorem named?_of_mem (mem : w ∈ v.entries) : v.named? w.name = some (v.wordOf w) := by
  obtain ⟨before, after, split⟩ := List.append_of_mem mem
  have distinct := v.distinct
  rw [split, List.map_append, List.map_cons] at distinct
  have others : ∀ x ∈ before, x.name ≠ w.name := fun x mem' same =>
    List.disjoint_of_nodup_append distinct (List.mem_map_of_mem mem')
      (same ▸ List.mem_cons_self ..)
  refine List.lookup_eq_some_iff.2 ⟨before.map fun x => (x.name, v.wordOf x),
    after.map fun x => (x.name, v.wordOf x), ?_, fun p mem' => ?_⟩
  · rw [names, split, List.map_append, List.map_cons]
  · obtain ⟨x, former, rfl⟩ := List.mem_map.1 mem'
    simpa using Ne.symm (others x former)

/-- Each name in the index leads back to its word. -/
theorem IsPlain.named?_of_mem_lastNames (plain : v.IsPlain) {e : Word × String}
    (mem : e ∈ v.lastNames) : v.named? e.2 = some e.1 := by
  obtain ⟨w, mem', named, leads⟩ := (plain.index_of_prefix (List.append_nil _).symm).2 e mem
  rw [← named, ← leads]
  exact named?_of_mem mem'

/-! ## Reading -/

theorem IsPlain.index_eq (plain : v.IsPlain) :
    v.index = .ok (v.lastNames.map fun e => (e.1.value, e.2)) := by
  have keys : (v.lastNames.map fun e => (e.1.value, e.2)).all (fun entry => entry.1.isKey)
      = true := by
    refine List.all_eq_true.2 fun entry mem => ?_
    obtain ⟨e, mem', rfl⟩ := List.mem_map.1 mem
    have word : e.1 ∈ v.words := plain.map_fst_lastNames ▸ List.mem_map_of_mem mem'
    obtain ⟨s, text⟩ := plain.texts e.1 (plain.mem_words_iff.1 word).1
    simp [text, Value.isKey]
  simp only [index, plain.shows, pure_bind, keys, if_true]
  rfl

/-- Among texts in lower case, the first that is the given one is found. -/
theorem findFolded_map {index : List (Word × String)}
    (texts : ∀ e ∈ index, ∃ t, e.1.value = .text t) :
    findFolded (Text.lowercase s) (index.map fun e => (e.1.value, e.2))
      = .ok ((index.find? fun e => isValueInAnyCase s e.1).map Prod.snd) := by
  induction index with
  | nil => rfl
  | cons e rest ih =>
      obtain ⟨t, text⟩ := texts e (List.mem_cons_self ..)
      have rest' := ih fun e mem => texts e (List.mem_cons_of_mem _ mem)
      by_cases same : Text.lowercase t = Text.lowercase s
      · simp [findFolded, folded, isValueInAnyCase, text, same]
      · simp [findFolded, folded, isValueInAnyCase, text, same, rest']

theorem IsPlain.find?_words (plain : v.IsPlain) (p : Word → Bool) :
    v.words.find? p = (v.lastNames.find? fun e => p e.1).map Prod.fst := by
  rw [← plain.map_fst_lastNames, List.find?_map]
  rfl

/-- The name under which a text is looked up. -/
def lookedUp? (v : Vocabulary) (s : String) : Option String :=
  ((v.lastNames.find? fun e => isValue s e.1).map Prod.snd).or
    (((v.lastNames.find? fun e => isValueInAnyCase s e.1).map Prod.snd).or
      (v.findName (Text.lowercase s)))

theorem IsPlain.lookUp_eq (plain : v.IsPlain) (s : String) : v.lookUp s = .ok (v.lookedUp? s) := by
  have texts : ∀ e ∈ v.lastNames, ∃ t, e.1.value = .text t := by
    intro e mem
    have word : e.1 ∈ v.words := plain.map_fst_lastNames ▸ List.mem_map_of_mem mem
    exact plain.texts e.1 (plain.mem_words_iff.1 word).1
  have exactly : ((fun entry : Value × String => entry.1.sameKey (.text s)) ∘
      fun e : Word × String => (e.1.value, e.2)) = fun e => isValue s e.1 := by
    funext e
    exact Value.sameKey_text e.1.value s
  rw [lookUp, plain.looksUp, if_neg Bool.false_ne_true, nameOf?, plain.index_eq]
  simp only [bind, Except.bind, List.find?_map, exactly, findFolded_map texts, lookedUp?]
  cases v.lastNames.find? fun e => isValue s e.1 with
  | some e => rfl
  | none => cases v.lastNames.find? fun e => isValueInAnyCase s e.1 <;> rfl

/-- The name under which a text is looked up is one of the word that it is to be read as. -/
theorem IsPlain.map_named?_lookedUp? (plain : v.IsPlain) (s : String) :
    (v.lookedUp? s).map v.named? = (v.reading? s).map some := by
  have indexed : ∀ p : Word → Bool,
      ((v.lastNames.find? fun e => p e.1).map Prod.snd).map v.named?
        = (v.words.find? p).map some := by
    intro p
    rw [plain.find?_words]
    cases found : v.lastNames.find? fun e => p e.1 with
    | none => rfl
    | some e => simp [plain.named?_of_mem_lastNames (List.mem_of_find?_eq_some found)]
  have named : (v.findName (Text.lowercase s)).map v.named?
      = ((v.entries.find? (isNameInAnyCase s)).map v.wordOf).map some := by
    have sought : v.findName (Text.lowercase s)
        = (v.entries.find? (isNameInAnyCase s)).map Word.name := rfl
    rw [sought]
    cases found : v.entries.find? (isNameInAnyCase s) with
    | none => rfl
    | some w => simp [named?_of_mem (List.mem_of_find?_eq_some found)]
  simp only [lookedUp?, reading?, Option.map_or, indexed, named]

theorem IsPlain.refuse_eq (plain : v.IsPlain) (value : Value) :
    v.refuse value = .error (.wordUnknown value.plain v.name
      (Value.literal (.list (v.words.map Word.value)))) := by
  have shown : ∀ ws : List Word, ws.mapM v.valueOf = .ok (ws.map Word.value) := by
    intro ws
    induction ws with
    | nil => rfl
    | cons w ws ih => simp [valueOf, property, plain.shows, ih]; rfl
  rw [refuse, shown]
  rfl

/-- What a text is read as, or how it is refused. -/
theorem IsPlain.read_text (plain : v.IsPlain) (s : String) :
    v.read (.value (.text s)) = match v.reading? s with
      | some w => .ok w
      | none => .error (.wordUnknown (Value.plain (.text s)) v.name
          (Value.literal (.list (v.words.map Word.value)))) := by
  have leads := plain.map_named?_lookedUp? s
  simp only [read, plain.reads, Bool.false_eq_true, if_false, coerce, plain.lookUp_eq]
  cases looked : v.lookedUp? s with
  | none =>
      cases reading : v.reading? s with
      | none => exact plain.refuse_eq _
      | some w => simp [looked, reading] at leads
  | some name =>
      cases reading : v.reading? s with
      | none => simp [looked, reading] at leads
      | some w =>
          have same : v.named? name = some w := by simpa [looked, reading] using leads
          simp only [bind, Except.bind, named, same]

theorem IsPlain.mem_words_of_reading? (plain : v.IsPlain) (reads : v.reading? s = some w) :
    w ∈ v.words := by
  rw [reading?, Option.or_eq_some_iff, Option.or_eq_some_iff] at reads
  rcases reads with exactly | ⟨-, anyCase | ⟨-, named⟩⟩
  · exact List.mem_of_find?_eq_some exactly
  · exact List.mem_of_find?_eq_some anyCase
  · obtain ⟨entry, found, rfl⟩ := Option.map_eq_some_iff.1 named
    exact plain.wordOf_mem_words (List.mem_of_find?_eq_some found)

theorem IsPlain.reading?_value (plain : v.IsPlain) (mem : m ∈ v.words)
    (text : m.value = .text s) : v.reading? s = some m := by
  have is : isValue s m = true := by simp [isValue, text, Value.same, Value.sameKey]
  obtain ⟨w, found⟩ := Option.isSome_iff_exists.1 (List.find?_isSome.2 ⟨m, mem, is⟩)
  have mem' := List.mem_of_find?_eq_some found
  have same : w.value.same (.text s) = true := List.find?_some (p := isValue s) found
  rw [← text, plain.same_iff (plain.mem_words_iff.1 mem').1 (plain.mem_words_iff.1 mem).1] at same
  obtain rfl := plain.eq_of_value_eq mem' mem same
  rw [reading?, found, Option.some_or]

/-! ## Aliases -/

theorem map_fst_names : v.names.map Prod.fst = v.entries.map Word.name := by
  rw [names, List.map_map]
  rfl

/-- A vocabulary without its aliases. -/
def withoutAliases (v : Vocabulary) : Vocabulary :=
  { v with
    entries := v.words
    distinct := by
      have own : ∀ entry ∈ v.names.filter (fun entry => entry.1 == entry.2.name),
          (Word.name ∘ Prod.snd) entry = entry.1 := fun entry mem =>
        (beq_iff_eq.1 (List.mem_filter.1 mem).2).symm
      rw [words, List.map_map, List.map_congr_left own]
      exact (map_fst_names ▸ v.distinct).sublist (List.filter_sublist.map _) }

/-- Without its aliases a vocabulary is one of texts still. -/
theorem IsPlain.withoutAliases (plain : v.IsPlain) : v.withoutAliases.IsPlain := by
  have lacks : ∀ operation, v.lacks operation = false →
      v.withoutAliases.lacks operation = false := by
    intro operation present
    obtain ⟨unnamed, unfilled⟩ := Bool.or_eq_false_iff.1 present
    refine Bool.or_eq_false_iff.2 ⟨List.any_eq_false.2 fun w mem => ?_, unfilled⟩
    exact List.any_eq_false.1 unnamed w (plain.mem_words_iff.1 mem).1
  exact ⟨fun w mem => plain.texts w (plain.mem_words_iff.1 mem).1, lacks _ plain.reads,
    lacks _ plain.looksUp, plain.shows⟩

theorem IsPlain.words_withoutAliases (plain : v.IsPlain) :
    v.withoutAliases.words = v.words := by
  have plain' := plain.withoutAliases
  rw [plain'.words_eq_filter]
  refine List.filter_eq_self.2 fun w mem => (plain'.isOwn_iff mem).2 ?_
  exact plain.eq_of_value_eq (plain'.wordOf_mem mem) mem (plain'.value_wordOf mem)

/-- What is a value, in any case, is not read otherwise for the aliases. -/
theorem IsPlain.reading?_withoutAliases (plain : v.IsPlain)
    (value : ∃ m ∈ v.words, isValueInAnyCase s m = true) :
    v.withoutAliases.reading? s = v.reading? s := by
  obtain ⟨w, found⟩ := Option.isSome_iff_exists.1 (List.find?_isSome.2 value)
  rw [reading?, reading?, plain.words_withoutAliases, found, Option.some_or, Option.some_or]

end Plain

/-! ## Lenient reading -/

/-- How a vocabulary of texts reads. -/
structure ReadsLeniently (v : Vocabulary) : Prop where
  /-- a text is read as the word that it is to be read as, and else refused as a value -/
  reads : ∀ s, match v.reading? s with
    | some w => v.read (.value (.text s)) = .ok w ∧ w ∈ v.words
    | none => ∃ c, v.read (.value (.text s)) = .error c ∧ c.kind = .value
  /-- a word is read back from its value, and stands for itself -/
  readsBack : ∀ m ∈ v.words, v.read (.value m.value) = .ok m ∧ v.read (.word m) = .ok m
  /-- what is a value, in any case, is read as if there were no aliases -/
  aliases : ∀ s, (∃ m ∈ v.words, isValueInAnyCase s m = true) →
    v.read (.value (.text s)) = v.withoutAliases.read (.value (.text s))
  /-- what is accepted is what is read -/
  accepts : ∀ c, ∃ b, v.accepts c = .ok b ∧ (b = true ↔ ∃ w, v.read c = .ok w)

/-- A vocabulary of texts reads a text as the word whose value it is; failing that, as the first
whose value it is in any case; failing that, as the word of the first name that it is in any case,
aliases included; and refuses it otherwise.  It reads its words back from their values, aliases
change nothing for what is a value, and it accepts just what it reads. -/
theorem readsLeniently {v : Vocabulary} (plain : v.IsPlain) : v.ReadsLeniently := by
  refine ⟨fun s => ?_, fun m mem => ⟨?_, ?_⟩, fun s value => ?_, fun c => ?_⟩
  · have read := plain.read_text s
    cases reading : v.reading? s with
    | some w =>
        rw [reading] at read
        exact ⟨read, plain.mem_words_of_reading? reading⟩
    | none =>
        rw [reading] at read
        exact ⟨_, read, rfl⟩
  · obtain ⟨s, text⟩ := plain.texts m (plain.mem_words_iff.1 mem).1
    rw [text, plain.read_text, plain.reading?_value mem text]
  · rw [read, plain.reads, if_neg Bool.false_ne_true, coerce]
  · have other := plain.withoutAliases.read_text s
    rw [plain.reading?_withoutAliases value, plain.words_withoutAliases] at other
    rw [other, plain.read_text]
    rfl
  · cases c with
    | word w =>
        exact ⟨true, rfl, iff_of_true rfl ⟨w, by rw [read, plain.reads]; rfl⟩⟩
    | value x =>
        have unread : (∀ s, x ≠ .text s) → ∀ w, v.read (.value x) ≠ .ok w := by
          intro other w
          rw [read, plain.reads, if_neg Bool.false_ne_true]
          cases x with
          | text s => exact absurd rfl (other s)
          | _ => simp [coerce, plain.refuse_eq]
        cases x with
        | text s =>
            refine ⟨(v.lookedUp? s).isSome, by simp [accepts, plain.lookUp_eq, Except.map], ?_⟩
            have same : (v.lookedUp? s).isSome = (v.reading? s).isSome := by
              have leads := congrArg Option.isSome (plain.map_named?_lookedUp? s)
              simpa using leads
            rw [same, plain.read_text]
            cases v.reading? s <;> simp
        | _ => exact ⟨false, rfl, iff_of_false Bool.false_ne_true
            fun ⟨w, read⟩ => unread (by simp) w read⟩

/-! ## Vocabularies that are worked out -/

/-- Two words whose values differ in case only, one of them named like the value of the other, and
an alias of the first. -/
def modes : Vocabulary :=
  ⟨"Mode", [⟨"READ", .text "r"⟩, ⟨"r", .text "R"⟩, ⟨"FETCH", .text "r"⟩, ⟨"WRITE", .text "w"⟩], [],
    by decide⟩

theorem readsLeniently_modes : modes.ReadsLeniently ∧
    modes.reading? "r" = some ⟨"READ", .text "r"⟩ ∧ modes.reading? "R" = some ⟨"r", .text "R"⟩ ∧
    modes.reading? "W" = some ⟨"WRITE", .text "w"⟩ ∧
    modes.reading? "fetch" = some ⟨"READ", .text "r"⟩ ∧ modes.reading? "x" = none := by
  have plain : modes.IsPlain := by
    refine ⟨fun w mem => ?_, rfl, rfl, rfl⟩
    simp only [modes, List.mem_cons, List.not_mem_nil, or_false] at mem
    rcases mem with rfl | rfl | rfl | rfl
    all_goals exact ⟨_, rfl⟩
  exact ⟨readsLeniently plain, rfl, rfl, rfl, rfl, rfl⟩

/-- A vocabulary of one word that has the name of an operation. -/
def shadowing (operation : String) : Vocabulary :=
  ⟨"E", [⟨operation, .text "x"⟩], [], List.nodup_singleton _⟩

/-- The word that hides how a vocabulary reads is accepted and not read from its value; the one
that hides how it looks up is neither accepted nor read. -/
theorem unread_shadowed :
    (shadowing readingName).words = [⟨readingName, .text "x"⟩] ∧
      (shadowing readingName).accepts (.value (.text "x")) = .ok true ∧
      (shadowing readingName).read (.value (.text "x")) = .error .wrongSort ∧
      (shadowing lookUpName).words = [⟨lookUpName, .text "x"⟩] ∧
      (shadowing lookUpName).accepts (.value (.text "x")) = .error .wrongSort ∧
      (shadowing lookUpName).read (.value (.text "x")) = .error .wrongSort :=
  ⟨rfl, rfl, rfl, rfl, rfl, rfl⟩

end Vocabulary

end QueryStream
