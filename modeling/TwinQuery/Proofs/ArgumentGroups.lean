/-
# Options in any order

The arguments of a command fall into groups: a flag, an option with the
argument that is its value, or a word. A word is any argument that is no flag
and no name of an option; a value is any text at all, the name of a flag or of
another option included.

Reading the arguments of a group has one effect on the options, whatever
follows it (`Options.addAll_append`), so reading the arguments of many groups
is a fold over the groups (`Options.addAll_arguments`). The fold is known
without its order (`Options.foldl_put`): flags count when they occur, of the
values of an option the last one counts, and words are kept as they come. Two
orders of the groups that agree on the words and on the groups of each option
therefore say the same.

Key definitions: `Flag`, `ArgumentGroup`, `Options.put`, `Options.ofGroups`,
`ArgumentGroup.Reordered`.
Key theorems: `Options.addAll_arguments`, `Options.foldl_put`,
`Options.ofGroups_of_reordered`, `Options.ofGroups_insert_value`,
`Options.ofArguments_in_any_order`.
-/
import Mathlib.Data.List.Induction
import TwinQuery.CommandLine.Options

namespace TwinQuery

/-! ### Groups -/

/-- The options without a value. -/
inductive Flag where
  | json
  | localOnly
deriving DecidableEq

/-- The name of a flag. -/
def Flag.name : Flag → Text
  | .json => "--json"
  | .localOnly => "--local"

/-- The long name and the short name of an option. -/
def ValueOption.name : ValueOption → (short : Bool) → Text
  | .source, false => "--from"
  | .source, true => "-f"
  | .target, false => "--to"
  | .target, true => "-t"
  | .language, false => "--language"
  | .language, true => "-l"

/-- The arguments that are no words: the names of the flags and of the options
with a value. -/
def reservedArguments : List Text :=
  ["--json", "--local", "--from", "-f", "--to", "-t", "--language", "-l"]

/-- Arguments that belong together: a flag, an option by either name with its
value, or a word. -/
inductive ArgumentGroup where
  | flag (f : Flag)
  | value (option : ValueOption) (short : Bool) (text : Text)
  | word (w : { w : Text // w ∉ reservedArguments })
deriving DecidableEq

namespace ArgumentGroup

/-- The arguments of a group as they are written. -/
def arguments : ArgumentGroup → List Text
  | flag f => [f.name]
  | value option short text => [option.name short, text]
  | word w => [w]

/-- The word that a group is. -/
def word? : ArgumentGroup → Option Text
  | word w => some w
  | _ => none

/-- The value that a group gives to an option. -/
def valueOf? (option : ValueOption) : ArgumentGroup → Option Text
  | value other _ text => if other = option then some text else none
  | _ => none

/-- Whether a group is a word. -/
def isWord (g : ArgumentGroup) : Bool := g.word?.isSome

/-- Whether a group gives a value to an option. -/
def gives (option : ValueOption) (g : ArgumentGroup) : Bool := (g.valueOf? option).isSome

/-- The same groups in another order, where the words keep their order and so
do the groups that give a value to the same option. -/
structure Reordered (gs hs : List ArgumentGroup) : Prop where
  perm : gs.Perm hs
  words : gs.filter isWord = hs.filter isWord
  values : ∀ option, gs.filter (gives option) = hs.filter (gives option)

end ArgumentGroup

open ArgumentGroup

theorem ValueOption.ofText?_name (option : ValueOption) (short : Bool) :
    ofText? (option.name short) = some option := by
  cases option <;> cases short <;> decide

theorem ValueOption.ofText?_flagName (f : Flag) : ofText? f.name = none := by
  cases f <;> decide

theorem ValueOption.ofText?_eq_none {w : Text} (h : w ∉ reservedArguments) : ofText? w = none := by
  simp only [reservedArguments, List.mem_cons, List.not_mem_nil, or_false, not_or] at h
  simp [ofText?, List.lookup_eq_none_iff, h]

namespace Options

/-! ### Reading the groups one after the other -/

/-- The options with a group put in. -/
def put (o : Options) : ArgumentGroup → Options
  | .flag .json => { o with json := true }
  | .flag .localOnly => { o with localOnly := true }
  | .value option _ text => o.set option text
  | .word w => { o with words := o.words ++ [w.1] }

theorem addAll_cons {argument : Text} (h : ValueOption.ofText? argument = none) (o : Options)
    (rest : List Text) : addAll o (argument :: rest) = addAll (o.add argument) rest := by
  cases rest with
  | nil => rfl
  | cons next rest => simp only [addAll, h]

theorem add_word (o : Options) {w : Text} (h : w ∉ reservedArguments) :
    o.add w = { o with words := o.words ++ [w] } := by
  have hjson : w ≠ Text.ofString "--json" := by
    rintro rfl
    exact h (by decide)
  have hlocal : w ≠ Text.ofString "--local" := by
    rintro rfl
    exact h (by decide)
  rw [add, if_neg hjson, if_neg hlocal]

/-- **A group is read as a whole,** whatever the arguments after it are. -/
theorem addAll_append (o : Options) (g : ArgumentGroup) (rest : List Text) :
    addAll o (g.arguments ++ rest) = addAll (o.put g) rest := by
  cases g with
  | flag f =>
    have hadd : o.add f.name = o.put (.flag f) := by cases f <;> rfl
    rw [arguments, List.singleton_append, addAll_cons (ValueOption.ofText?_flagName f), hadd]
  | value option short text =>
    simp only [arguments, List.cons_append, List.nil_append, addAll, ValueOption.ofText?_name, put]
  | word w =>
    rw [arguments, List.singleton_append, addAll_cons (ValueOption.ofText?_eq_none w.2),
      add_word o w.2]
    rfl

/-- Reading the arguments of groups is a fold over the groups. -/
theorem addAll_arguments : ∀ (gs : List ArgumentGroup) (o : Options),
    addAll o (gs.flatMap arguments) = gs.foldl put o
  | [], _ => rfl
  | g :: gs, o => by
    rw [List.flatMap_cons, addAll_append, addAll_arguments gs, List.foldl_cons]

/-! ### What the groups say -/

/-- The value of an option. -/
def get (o : Options) : ValueOption → Option Text
  | .source => o.source
  | .target => o.target
  | .language => o.language

@[simp] theorem json_set (o : Options) (option : ValueOption) (text : Text) :
    (o.set option text).json = o.json := by
  cases option <;> rfl

@[simp] theorem localOnly_set (o : Options) (option : ValueOption) (text : Text) :
    (o.set option text).localOnly = o.localOnly := by
  cases option <;> rfl

@[simp] theorem words_set (o : Options) (option : ValueOption) (text : Text) :
    (o.set option text).words = o.words := by
  cases option <;> rfl

theorem get_set (o : Options) (option other : ValueOption) (text : Text) :
    (o.set option text).get other = if option = other then some text else o.get other := by
  cases option <;> cases other <;> rfl

/-- Options are known from their flags, the values of the options and the
words. -/
theorem ext_get {o p : Options} (hjson : o.json = p.json) (hlocal : o.localOnly = p.localOnly)
    (hget : ∀ option, o.get option = p.get option) (hwords : o.words = p.words) : o = p := by
  have hsource : o.source = p.source := hget .source
  have htarget : o.target = p.target := hget .target
  have hlanguage : o.language = p.language := hget .language
  cases o
  cases p
  simp_all

/-- What groups say: the flags among them, for each option its last value, and
the words in order. -/
def ofGroups (gs : List ArgumentGroup) : Options where
  json := decide (.flag .json ∈ gs)
  localOnly := decide (.flag .localOnly ∈ gs)
  source := (gs.filterMap (valueOf? .source)).getLast?
  target := (gs.filterMap (valueOf? .target)).getLast?
  language := (gs.filterMap (valueOf? .language)).getLast?
  words := gs.filterMap word?

theorem get_ofGroups (gs : List ArgumentGroup) (option : ValueOption) :
    (ofGroups gs).get option = (gs.filterMap (valueOf? option)).getLast? := by
  cases option <;> rfl

theorem ofGroups_concat (gs : List ArgumentGroup) (g : ArgumentGroup) :
    ofGroups (gs ++ [g]) = (ofGroups gs).put g := by
  cases g with
  | flag f => cases f <;> simp [ofGroups, put, valueOf?, word?]
  | value option short text => cases option <;> simp [ofGroups, put, set, valueOf?, word?]
  | word w => simp [ofGroups, put, valueOf?, word?]

/-- **The fold over the groups does not depend on how flags, options and words
are mixed.** -/
theorem foldl_put (gs : List ArgumentGroup) : gs.foldl put {} = ofGroups gs := by
  induction gs using List.reverseRecOn with
  | nil => rfl
  | append_singleton gs g ih =>
    rw [List.foldl_append, ih, List.foldl_cons, List.foldl_nil, ofGroups_concat]

theorem ofArguments_eq_ofGroups (gs : List ArgumentGroup) :
    ofArguments (gs.flatMap arguments) = ofGroups gs := by
  rw [ofArguments, addAll_arguments, foldl_put]

/-! ### Other orders and other values -/

section

variable {α β : Type} {f : α → Option β}

theorem filterMap_of_filter_eq {xs ys : List α}
    (h : xs.filter (fun x => (f x).isSome) = ys.filter fun y => (f y).isSome) :
    xs.filterMap f = ys.filterMap f := by
  have kept : ∀ zs : List α, (zs.filter fun z => (f z).isSome).filterMap f = zs.filterMap f := by
    intro zs
    have hf : (fun z => if (f z).isSome then f z else none) = f := by
      funext z
      cases f z <;> rfl
    rw [List.filterMap_filter, hf]
  rw [← kept xs, ← kept ys, h]

/-- An element with an image gives the last image, unless an element after it
has one. -/
theorem getLast?_filterMap_insert {x : α} {v : β} (hx : f x = some v) (before after : List α) :
    ((before ++ x :: after).filterMap f).getLast? =
      if after.any fun y => (f y).isSome then ((before ++ after).filterMap f).getLast?
      else some v := by
  rw [List.filterMap_append, List.filterMap_append, List.filterMap_cons_some hx]
  split
  · rename_i hany
    obtain ⟨y, hy, hsome⟩ := List.any_eq_true.mp hany
    obtain ⟨u, hu⟩ := Option.isSome_iff_exists.mp hsome
    have hne : after.filterMap f ≠ [] := List.ne_nil_of_mem (List.mem_filterMap.mpr ⟨y, hy, hu⟩)
    obtain ⟨w, hw⟩ := Option.isSome_iff_exists.mp (List.getLast?_isSome.mpr hne)
    rw [List.getLast?_append, List.getLast?_append, List.getLast?_cons, hw]
    rfl
  · rename_i hany
    have hnil : after.filterMap f = [] := by
      rw [List.filterMap_eq_nil_iff]
      intro y hy
      simpa using fun hsome => hany (List.any_eq_true.mpr ⟨y, hy, hsome⟩)
    rw [hnil, List.getLast?_append]
    rfl

end

theorem ofGroups_of_reordered {gs hs : List ArgumentGroup} (h : Reordered gs hs) :
    ofGroups gs = ofGroups hs := by
  have hflag : ∀ f, ArgumentGroup.flag f ∈ gs ↔ .flag f ∈ hs := fun f => h.perm.mem_iff
  have hvalues : ∀ option, gs.filterMap (valueOf? option) = hs.filterMap (valueOf? option) :=
    fun option => filterMap_of_filter_eq (h.values option)
  have hwords : gs.filterMap word? = hs.filterMap word? := filterMap_of_filter_eq h.words
  simp only [ofGroups, hflag, hvalues, hwords]

/-- **A value is nothing but a value.** A group with a value sets its option,
unless a later group sets it again, and changes nothing else. -/
theorem ofGroups_insert_value (before after : List ArgumentGroup) (option : ValueOption)
    (short : Bool) (text : Text) :
    ofGroups (before ++ .value option short text :: after) =
      if after.any (gives option) then ofGroups (before ++ after)
      else (ofGroups (before ++ after)).set option text := by
  have hflag : ∀ f, ArgumentGroup.flag f ∈ before ++ .value option short text :: after ↔
      .flag f ∈ before ++ after := fun f => by simp
  have hwords : (before ++ .value option short text :: after).filterMap word? =
      (before ++ after).filterMap word? := by
    rw [List.filterMap_append, List.filterMap_append, List.filterMap_cons_none rfl]
  have hother : ∀ other, option ≠ other →
      (before ++ .value option short text :: after).filterMap (valueOf? other) =
        (before ++ after).filterMap (valueOf? other) := fun other hne => by simp [valueOf?, hne]
  have hlast := getLast?_filterMap_insert (f := valueOf? option) (x := .value option short text)
    (v := text) (by simp [valueOf?]) before after
  refine ext_get ?_ ?_ (fun other => ?_) ?_
  · rw [apply_ite Options.json, json_set, ite_self]
    simp only [ofGroups, hflag]
  · rw [apply_ite Options.localOnly, localOnly_set, ite_self]
    simp only [ofGroups, hflag]
  · -- only the group's own option can tell that the group is there
    by_cases hne : option = other
    · subst hne
      rw [apply_ite (get · option), get_set, get_ofGroups, get_ofGroups, if_pos rfl]
      exact hlast
    · rw [apply_ite (get · other), get_set, if_neg hne, ite_self, get_ofGroups, get_ofGroups,
        hother other hne]
  · rw [apply_ite Options.words, words_set, ite_self]
    exact hwords

/-- **The options may stand in any order.** Groups say which flags are among
them, for each option the last value, by whichever name, and the words in
order. So they say the same in every order that keeps the order of the words
and of the groups for the same option. A value is not read as a flag, an
option or a word, whatever it is: its group sets the option, unless a later
group does, and changes nothing else. -/
theorem ofArguments_in_any_order :
    (∀ gs : List ArgumentGroup, ofArguments (gs.flatMap arguments) = ofGroups gs) ∧
      (∀ gs hs : List ArgumentGroup, Reordered gs hs →
        ofArguments (gs.flatMap arguments) = ofArguments (hs.flatMap arguments)) ∧
      ∀ (before after : List ArgumentGroup) (option : ValueOption) (short : Bool) (text : Text),
        ofArguments ((before ++ .value option short text :: after).flatMap arguments) =
          if after.any (gives option) then ofArguments ((before ++ after).flatMap arguments)
          else (ofArguments ((before ++ after).flatMap arguments)).set option text := by
  refine ⟨ofArguments_eq_ofGroups, fun gs hs h => ?_, fun before after option short text => ?_⟩
  · rw [ofArguments_eq_ofGroups, ofArguments_eq_ofGroups, ofGroups_of_reordered h]
  · rw [ofArguments_eq_ofGroups, ofArguments_eq_ofGroups, ofGroups_insert_value]

/-- Groups with names of flags and options as values, and an option given by
both of its names. -/
def sampleGroups : List ArgumentGroup :=
  [.value .source false "--json", .word ⟨"query", by decide⟩, .value .target false "-f",
   .flag .localOnly, .value .source true "spl", .word ⟨"--form", by decide⟩]

/-- The same groups with the flag first and the words last. -/
def movedGroups : List ArgumentGroup :=
  [.flag .localOnly, .value .target false "-f", .value .source false "--json",
   .value .source true "spl", .word ⟨"query", by decide⟩, .word ⟨"--form", by decide⟩]

/-- Two orders of the same groups, and the same without the last value of an
option. -/
theorem ofArguments_in_any_order_values :
    Reordered sampleGroups movedGroups ∧
      ofArguments ["--from", "--json", "query", "--to", "-f", "--local", "-f", "spl", "--form"] =
        { localOnly := true, source := some "spl", target := some "-f",
          words := ["query", "--form"] } ∧
      ofArguments ["--from", "--json", "query", "--to", "-f", "--local", "-f", "spl", "--form"] =
        ofArguments ["--local", "--to", "-f", "--from", "--json", "-f", "spl", "query", "--form"] ∧
      ofArguments ["--from", "--json", "query", "--to", "-f", "--local", "-f", "spl", "--form"] =
        (ofArguments ["--from", "--json", "query", "--to", "-f", "--local", "--form"]).set
          .source "spl" := by
  have hmoved : Reordered sampleGroups movedGroups :=
    ⟨by decide, by decide, fun option => by cases option <;> decide⟩
  obtain ⟨hread, hany, hvalue⟩ := ofArguments_in_any_order
  exact ⟨hmoved, hread sampleGroups, hany sampleGroups movedGroups hmoved,
    hvalue (sampleGroups.take 4) (sampleGroups.drop 5) .source true "spl"⟩

end Options

end TwinQuery
