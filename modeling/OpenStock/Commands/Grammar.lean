import Mathlib.Data.List.Nodup
import OpenStock.Commands.Parser

namespace OpenStock.Commands
open Text

/- Where the loop puts each token. -/

inductive Place where
  | argument (token : Text)
  | setting (key : Text) (value : OptionValue)

def Place.tokens : Place → List Text
  | .argument token => [token]
  | .setting key value => optionTokens (key,value)

def Place.read (read : Arguments) : Place → Arguments
  | .argument token =>
    match filterRe token with
    | some found => {read with filters := read.filters ++ [{found with value := strip found.value}]}
    | none => {read with positional := read.positional ++ [token]}
  | .setting key value => readOption key value read

def places : List Text → List Place
  | [] => []
  | [token] => if isOption token then [.setting (token.drop 2) .flag] else [.argument token]
  | token :: next :: rest =>
    if isOption token then
      if !isOption next && (filterRe next).isNone then .setting (token.drop 2) (.text next) :: places rest
      else .setting (token.drop 2) .flag :: places (next :: rest)
    else .argument token :: places (next :: rest)

-- No bare `--` and no malformed filter.
def Fine (tokens : List Text) : Prop :=
  ∀ token ∈ tokens, token ≠ ['-','-'] ∧ ∀ found, filterRe token = some found → malformed (strip found.value) = false

variable {token : Text}

theorem option_form (option : isOption token = true) : '-' :: '-' :: token.drop 2 = token := by
  match token with
  | [] => cases option
  | [_] => simp [isOption,List.isPrefixOf] at option
  | first :: second :: rest =>
    simp only [isOption,List.isPrefixOf,Bool.and_eq_true,beq_iff_eq] at option
    obtain ⟨one,two,_⟩ := option
    rw [← one,← two]
    rfl

theorem optionKey_ok (option : isOption token = true) (named : token ≠ ['-','-']) : optionKey token = .ok (token.drop 2) := by
  refine if_neg ?_
  intro empty
  have form := option_form option
  rw [empty] at form
  exact named form.symm

theorem optionKey_bare : optionKey ['-','-'] = .error .bareOption := rfl

variable {tokens : List Text}

theorem fine_cons : Fine (token :: tokens) ↔ Fine [token] ∧ Fine tokens := by
  simp [Fine]

theorem readToken_ok (fine : Fine [token]) (read : Arguments) : readToken token read = .ok (Place.read read (.argument token)) := by
  have proper := (fine token (List.mem_singleton_self _)).2
  cases found : filterRe token with
  | none => simp [readToken,Place.read,found]
  | some filter => simp [readToken,Place.read,found,proper filter found]

theorem readToken_refused (plain : isOption token = false) (unfine : ¬ Fine [token]) (read : Arguments) :
    ∃ error, readToken token read = .error error := by
  unfold readToken
  cases found : filterRe token with
  | none =>
    refine absurd ?_ unfine
    intro other only
    rw [List.mem_singleton.mp only]
    refine ⟨?_,fun filter some => by rw [found] at some; cases some⟩
    rintro rfl
    cases plain
  | some filter =>
    by_cases wrong : malformed (strip filter.value) = true
    · exact ⟨_,if_pos wrong⟩
    · refine absurd ?_ unfine
      intro other only
      rw [List.mem_singleton.mp only]
      refine ⟨?_,fun some same => ?_⟩
      · rintro rfl
        cases plain
      · rw [found] at same
        cases same
        simpa using wrong

-- An option that is not bare reads as its key; a value or option is fine by itself.
theorem fine_option (option : isOption token = true) : Fine [token] ↔ token ≠ ['-','-'] := by
  have unfiltered : filterRe token = none := by
    rw [← option_form option]
    rfl
  simp [Fine,unfiltered]

theorem fine_value (plain : isOption token = false) (unfiltered : filterRe token = none) : Fine [token] := by
  intro other only
  rw [List.mem_singleton.mp only]
  refine ⟨?_,fun found some => by rw [unfiltered] at some; cases some⟩
  rintro rfl
  cases plain

-- The loop puts each token in its place where all are fine.
theorem parseArguments_fine (tokens : List Text) (read : Arguments) (fine : Fine tokens) :
    parseArguments tokens read = .ok ((places tokens).foldl Place.read read) := by
  induction tokens,read using parseArguments.induct with
  | case1 read => rfl
  | case2 token read option =>
    simp [parseArguments,places,option,optionKey_ok option ((fine_option option).mp fine),bind,Except.bind,Place.read]
  | case3 token read plain => simp [parseArguments,places,plain,readToken_ok fine]
  | case4 token next rest read option taken left =>
    obtain ⟨head,tail⟩ := fine_cons.mp fine
    have named := optionKey_ok option ((fine_option option).mp head)
    by_cases value : (!isOption next && (filterRe next).isNone) = true
    · have later := taken (token.drop 2) (fine_cons.mp tail).2
      simp [parseArguments,places,option,value,named,bind,Except.bind,Place.read,later]
    · have later := left (token.drop 2) tail
      simp [parseArguments,places,option,value,named,bind,Except.bind,Place.read,later]
  | case5 token next rest read plain left =>
    obtain ⟨head,tail⟩ := fine_cons.mp fine
    have later := left (Place.read read (.argument token)) tail
    simp [parseArguments,places,plain,readToken_ok head,bind,Except.bind,later]

-- It fails where some token is not.
theorem parseArguments_unfine (tokens : List Text) (read : Arguments) (unfine : ¬ Fine tokens) :
    ∃ error, parseArguments tokens read = .error error := by
  induction tokens,read using parseArguments.induct with
  | case1 read => exact absurd (fun _ member => by cases member) unfine
  | case2 token read option =>
    have bare : token = ['-','-'] := by simpa [fine_option option] using unfine
    exact ⟨.bareOption,by simp [parseArguments,bare,isOption,optionKey_bare,bind,Except.bind]⟩
  | case3 token read plain =>
    obtain ⟨error,refused⟩ := readToken_refused (by simpa using plain) unfine read
    exact ⟨error,by simp [parseArguments,plain,refused]⟩
  | case4 token next rest read option taken left =>
    by_cases bare : token = ['-','-']
    · exact ⟨.bareOption,by simp [parseArguments,bare,isOption,optionKey_bare,bind,Except.bind]⟩
    · have named := optionKey_ok option bare
      have tail : ¬ Fine (next :: rest) := fun tail => unfine (fine_cons.mpr ⟨(fine_option option).mpr bare,tail⟩)
      by_cases value : (!isOption next && (filterRe next).isNone) = true
      · have plain : isOption next = false ∧ filterRe next = none := by simpa using value
        obtain ⟨error,refused⟩ := taken (token.drop 2) (fun later => tail (fine_cons.mpr ⟨fine_value plain.1 plain.2,later⟩))
        exact ⟨error,by simp [parseArguments,option,value,named,bind,Except.bind,refused]⟩
      · obtain ⟨error,refused⟩ := left (token.drop 2) tail
        exact ⟨error,by simp [parseArguments,option,value,named,bind,Except.bind,refused]⟩
  | case5 token next rest read plain left =>
    by_cases head : Fine [token]
    · have tail : ¬ Fine (next :: rest) := fun tail => unfine (fine_cons.mpr ⟨head,tail⟩)
      obtain ⟨error,refused⟩ := left (Place.read read (.argument token)) tail
      exact ⟨error,by simp [parseArguments,plain,readToken_ok head,bind,Except.bind,refused]⟩
    · obtain ⟨error,refused⟩ := readToken_refused (by simpa using plain) head read
      exact ⟨error,by simp [parseArguments,plain,refused,bind,Except.bind]⟩

/- What the places hold. -/

def Place.plain : Place → List Text
  | .argument token => if (filterRe token).isNone then [token] else []
  | .setting _ _ => []

def Place.filter : Place → List Text
  | .argument token => if (filterRe token).isNone then [] else [token]
  | .setting _ _ => []

def Place.option : Place → List (Text × OptionValue)
  | .argument _ => []
  | .setting key value => [(key,value)]

def filterOf (token : Text) : List CommandFilter := (filterRe token).toList.map (fun found => {found with value := strip found.value})

def setOptions (options settings : List (Text × OptionValue)) : List (Text × OptionValue) :=
  settings.foldl (fun options setting => setOption options setting.1 setting.2) options

theorem setOptions_cons (options : List (Text × OptionValue)) (setting : Text × OptionValue) (settings : List (Text × OptionValue)) :
    setOptions options (setting :: settings) = setOptions (setOption options setting.1 setting.2) settings := rfl

variable (kept : List Place) (read : Arguments)

theorem read_positional : (kept.foldl Place.read read).positional = read.positional ++ kept.flatMap Place.plain := by
  induction kept generalizing read with
  | nil => simp
  | cons place kept later =>
    cases place with
    | argument token => cases found : filterRe token <;> simp [later,Place.read,Place.plain,found]
    | setting key value => simp [later,Place.read,Place.plain,readOption]

theorem read_filters : (kept.foldl Place.read read).filters = read.filters ++ (kept.flatMap Place.filter).flatMap filterOf := by
  induction kept generalizing read with
  | nil => simp
  | cons place kept later =>
    cases place with
    | argument token => cases found : filterRe token <;> simp [later,Place.read,Place.filter,filterOf,found]
    | setting key value => simp [later,Place.read,Place.filter,readOption]

theorem read_options : (kept.foldl Place.read read).options = setOptions read.options (kept.flatMap Place.option) := by
  induction kept generalizing read with
  | nil => rfl
  | cons place kept later =>
    cases place with
    | argument token => cases found : filterRe token <;> simp [later,Place.read,Place.option,found]
    | setting key value => simp [later,Place.read,Place.option,readOption,setOptions]

-- No token is left out and none is made up.
theorem places_tokens (tokens : List Text) : (places tokens).flatMap Place.tokens = tokens := by
  induction tokens using places.induct with
  | case1 => rfl
  | case2 token option => simp [places,option,Place.tokens,optionTokens,-List.drop_eq_drop_iff,option_form option]
  | case3 token plain => simp [places,plain,Place.tokens]
  | case4 token next rest option value later
  | case5 token next rest option value later => simp [places,option,value,Place.tokens,optionTokens,option_form option,later]
  | case6 token next rest plain later => simp [places,plain,Place.tokens,later]

theorem places_parts : (kept.flatMap Place.tokens).Perm
      (kept.flatMap Place.plain ++ kept.flatMap Place.filter ++ (kept.flatMap Place.option).flatMap optionTokens) := by
  induction kept with
  | nil => exact .refl _
  | cons place kept later =>
    simp only [List.flatMap_cons]
    cases place with
    | argument token =>
      cases found : filterRe token with
      | none => simpa [Place.tokens,Place.plain,Place.filter,Place.option,found] using later
      | some filter =>
        simp only [Place.tokens,Place.plain,Place.filter,Place.option,found,List.nil_append,List.append_assoc,
          Option.isNone_some,Bool.false_eq_true,if_false]
        exact (later.cons token).trans (by simpa using List.perm_middle.symm)
    | setting key value =>
      simp only [Place.tokens,Place.plain,Place.filter,Place.option,List.nil_append,List.flatMap_append,List.flatMap_singleton]
      exact (later.append_left _).trans (List.perm_append_comm_assoc _ _ _)

-- What stands as an argument is no option, and no option's value is one.
def Place.Sound : Place → Prop
  | .argument token => isOption token = false
  | .setting _ value => ∀ text, value = .text text → isOption text = false

theorem places_sound (tokens : List Text) : ∀ place ∈ places tokens, place.Sound := by
  induction tokens using places.induct with
  | case1 => simp [places]
  | case2 token option => simp [places,option,Place.Sound]
  | case3 token plain => simp [places,plain,Place.Sound]
  | case4 token next rest option value later =>
    have plain : isOption next = false ∧ filterRe next = none := by simpa using value
    simp only [places,option,value,if_true,List.forall_mem_cons]
    refine ⟨fun text same => ?_,later⟩
    injection same with same
    exact same ▸ plain.1
  | case5 token next rest option value later =>
    rw [places,if_pos option,if_neg value,List.forall_mem_cons]
    exact ⟨fun text same => (by cases same),later⟩
  | case6 token next rest plain later =>
    rw [places,if_neg plain,List.forall_mem_cons]
    exact ⟨by simpa [Place.Sound] using plain,later⟩

theorem places_split {option : Text} (isAn : isOption option = true) (before rest : List Text) :
    places (before ++ option :: rest) = places before ++ places (option :: rest) := by
  induction before using places.induct with
  | case1 => rfl
  | case2 token first => simp [places,first,isAn]
  | case3 token plain => simp [places,plain]
  | case4 token next later first value split
  | case5 token next later first value split => simpa [places,first,value] using split
  | case6 token next later plain split => simpa [places,plain] using split

/- Options given once. -/

theorem setOption_length (options : List (Text × OptionValue)) (key : Text) (value : OptionValue) :
    (setOption options key value).length = if key ∈ options.map Prod.fst then options.length else options.length + 1 := by
  unfold setOption
  split <;> simp

theorem setOptions_length (settings options : List (Text × OptionValue)) :
    (setOptions options settings).length ≤ options.length + settings.length := by
  induction settings generalizing options with
  | nil => exact Nat.le_refl _
  | cons setting settings later =>
    have once := later (setOption options setting.1 setting.2)
    rw [setOption_length] at once
    rw [setOptions_cons,List.length_cons]
    split at once <;> omega

-- Distinct keys are all kept, in the order they came.
theorem setOptions_distinct (settings options : List (Text × OptionValue)) (distinct : ((options ++ settings).map Prod.fst).Nodup) :
    setOptions options settings = options ++ settings := by
  induction settings generalizing options with
  | nil => simp [setOptions]
  | cons setting settings later =>
    have fresh : setting.1 ∉ options.map Prod.fst := by
      simp only [List.map_append,List.map_cons,List.nodup_append,List.mem_cons] at distinct
      exact fun member => distinct.2.2 _ member _ (.inl rfl) rfl
    have added : setOption options setting.1 setting.2 = options ++ [setting] := if_neg fresh
    rw [setOptions_cons,added,later _ (by simpa using distinct)]
    simp

-- A key that comes again leaves fewer.
theorem setOptions_repeated (settings options : List (Text × OptionValue)) (before : (options.map Prod.fst).Nodup)
    (repeated : ¬ ((options ++ settings).map Prod.fst).Nodup) : (setOptions options settings).length < options.length + settings.length := by
  induction settings generalizing options with
  | nil => exact absurd (by simpa using before) repeated
  | cons setting settings later =>
    rw [setOptions_cons,List.length_cons]
    by_cases known : setting.1 ∈ options.map Prod.fst
    · have kept := setOptions_length settings (setOption options setting.1 setting.2)
      rw [setOption_length,if_pos known] at kept
      omega
    · have added : setOption options setting.1 setting.2 = options ++ [setting] := if_neg known
      have once := later (options ++ [setting]) (by simpa [List.nodup_append,before] using fun other value member => ne_of_mem_of_not_mem (List.mem_map_of_mem member) known) (by simpa using repeated)
      rw [added]
      rw [List.length_append,List.length_singleton] at once
      omega

variable {option : Text × OptionValue}

theorem setOptions_member {settings options : List (Text × OptionValue)}
    (member : option ∈ setOptions options settings) : option ∈ options ∨ option ∈ settings := by
  induction settings generalizing options with
  | nil => exact .inl member
  | cons setting settings later =>
    obtain set | rest := later member
    · simp only [setOption] at set
      split at set
      · obtain ⟨old,known,same⟩ := List.mem_map.mp set
        split at same
        · exact .inr (List.mem_cons.mpr (.inl same.symm))
        · exact .inl (same ▸ known)
      · obtain old | new := List.mem_append.mp set
        · exact .inl old
        · exact .inr (List.mem_cons.mpr (.inl (List.mem_singleton.mp new)))
    · exact .inr (List.mem_cons_of_mem _ rest)

/- A command read from fine tokens. -/

def settings (tokens : List Text) : List (Text × OptionValue) := (places tokens).flatMap Place.option

-- No option is given twice.
def OptionsOnce (tokens : List Text) : Prop := (tokens.filter isOption).Nodup

-- No token that looks like a filter comes right after an option.
def NoFilterAfterOption (tokens : List Text) : Prop :=
  ∀ before option value later, tokens = before ++ option :: value :: later → isOption option = true → isOption value = false →
    filterRe value = none

theorem places_options (sound : ∀ place ∈ kept, place.Sound) :
    (kept.flatMap Place.tokens).filter isOption = (kept.flatMap Place.option).map (fun option => '-' :: '-' :: option.1) := by
  induction kept with
  | nil => rfl
  | cons place kept later =>
    have first := sound place (List.mem_cons_self ..)
    have rest := later (fun other member => sound other (List.mem_cons_of_mem _ member))
    cases place with
    | argument token =>
      have plain : isOption token = false := first
      simp [Place.tokens,Place.option,plain,rest]
    | setting key value =>
      cases value with
      | flag => simp [Place.tokens,Place.option,optionTokens,isOption,rest]
      | text value =>
        have plain : isOption value = false := first value rfl
        simp only [isOption] at plain
        simp [Place.tokens,Place.option,optionTokens,isOption,plain,rest]

theorem settings_once (tokens : List Text) : ((settings tokens).map Prod.fst).Nodup ↔ OptionsOnce tokens := by
  have same := places_options (places tokens) (places_sound tokens)
  rw [places_tokens] at same
  unfold OptionsOnce
  have keyed : (settings tokens).map (fun option => '-' :: '-' :: option.1) =
      ((settings tokens).map Prod.fst).map (fun key => '-' :: '-' :: key) := by simp
  rw [same]
  refine Iff.trans ?_ (iff_of_eq (congrArg List.Nodup keyed)).symm
  exact (List.nodup_map_iff (fun one other alike => by simpa using alike)).symm

-- An option's own tokens hold one option.
theorem optionTokens_options (sound : (Place.setting option.1 option.2).Sound) : (optionTokens option).countP isOption = 1 := by
  obtain ⟨key,value⟩ := option
  cases value with
  | flag => simp [optionTokens,isOption]
  | text value =>
    have plain : isOption value = false := sound value rfl
    simp only [isOption] at plain
    simp [optionTokens,isOption,plain]

theorem settings_sound (member : option ∈ settings tokens) : (Place.setting option.1 option.2).Sound := by
  obtain ⟨place,within,inside⟩ := List.mem_flatMap.mp member
  have sound := places_sound tokens place within
  cases place with
  | argument token => cases inside
  | setting key value =>
    rw [List.mem_singleton.mp inside]
    exact sound

theorem options_counted (options : List (Text × OptionValue)) (sound : ∀ option ∈ options, (Place.setting option.1 option.2).Sound) :
    (options.flatMap optionTokens).countP isOption = options.length := by
  induction options with
  | nil => rfl
  | cons option options later =>
    have first := optionTokens_options (sound option (List.mem_cons_self ..))
    have rest := later (fun other member => sound other (List.mem_cons_of_mem _ member))
    rw [List.flatMap_cons,List.countP_append,first,rest,List.length_cons,Nat.add_comm]

theorem filters_read (filters : List Text) (fine : Fine filters) (found : ∀ token ∈ filters, (filterRe token).isSome = true) :
    filters.map readFilter = (filters.flatMap filterOf).map some := by
  induction filters with
  | nil => rfl
  | cons token filters later =>
    obtain ⟨head,tail⟩ := fine_cons.mp fine
    obtain ⟨filter,some⟩ := Option.isSome_iff_exists.mp (found token (List.mem_cons_self ..))
    have proper := (head token (List.mem_singleton_self _)).2 filter some
    have rest := later tail (fun other member => found other (List.mem_cons_of_mem _ member))
    simp [readFilter,filterOf,some,proper,rest]

theorem plain_member {kept : List Place} (member : token ∈ kept.flatMap Place.plain) : .argument token ∈ kept := by
  obtain ⟨place,within,inside⟩ := List.mem_flatMap.mp member
  cases place with
  | argument other =>
    cases found : filterRe other with
    | none =>
      have same : token = other := by simpa [Place.plain,found] using inside
      exact same ▸ within
    | some filter => simp [Place.plain,found] at inside
  | setting key value => cases inside

theorem filter_member {kept : List Place} (member : token ∈ kept.flatMap Place.filter) :
    .argument token ∈ kept ∧ (filterRe token).isSome = true := by
  obtain ⟨place,within,inside⟩ := List.mem_flatMap.mp member
  cases place with
  | argument other =>
    cases found : filterRe other with
    | none => simp [Place.filter,found] at inside
    | some filter =>
      have same : token = other := by simpa [Place.filter,found] using inside
      exact ⟨same ▸ within,by rw [same,found]; rfl⟩
  | setting key value => cases inside

-- The command the loop's result makes.
def commandOf (name raw : Text) (added tokens : List Text) : ParsedCommand :=
  ⟨name,raw,added ++ (places tokens).flatMap Place.plain,((places tokens).flatMap Place.filter).flatMap filterOf,
    setOptions [] (settings tokens)⟩

theorem argument_token (member : .argument token ∈ places tokens) : token ∈ tokens := by
  have within : token ∈ (places tokens).flatMap Place.tokens := List.mem_flatMap.mpr ⟨_,member,List.mem_singleton_self _⟩
  rwa [places_tokens] at within

variable {name raw : Text}

theorem kept_once {added tokens : List Text} (fine : Fine tokens) (once : OptionsOnce tokens) :
    Keeps tokens added (commandOf name raw added tokens) := by
  refine ⟨(places tokens).flatMap Place.plain,(places tokens).flatMap Place.filter,rfl,?_,?_⟩
  · refine filters_read _ (fun token member => fine token (argument_token (filter_member member).1)) ?_
    intro token member
    exact (filter_member member).2
  · have distinct : setOptions [] (settings tokens) = settings tokens :=
      setOptions_distinct (settings tokens) [] ((settings_once tokens).mpr once)
    have parts := places_parts (places tokens)
    rw [places_tokens] at parts
    have same : (commandOf name raw added tokens).options = settings tokens := distinct
    rw [same]
    exact parts

theorem once_kept {added tokens : List Text} (keeps : Keeps tokens added (commandOf name raw added tokens)) :
    OptionsOnce tokens := by
  obtain ⟨positional,filters,plain,read,parts⟩ := keeps
  by_contra repeated
  have fewer : (setOptions [] (settings tokens)).length < 0 + (settings tokens).length :=
    setOptions_repeated (settings tokens) [] List.nodup_nil (fun once => repeated ((settings_once tokens).mp once))
  have given : tokens.countP isOption = (settings tokens).length := by
    have same := places_options (places tokens) (places_sound tokens)
    rw [places_tokens] at same
    rw [List.countP_eq_length_filter,same,List.length_map]
    rfl
  have positionals : positional.countP isOption = 0 := by
    rw [← List.append_cancel_left plain]
    refine List.countP_eq_zero.mpr ?_
    intro token member
    have sound : isOption token = false := places_sound tokens _ (plain_member member)
    simp [sound]
  have filtered : filters.countP isOption = 0 := by
    refine List.countP_eq_zero.mpr ?_
    intro token member option
    have some : readFilter token ∈ filters.map readFilter := List.mem_map_of_mem member
    rw [read] at some
    obtain ⟨filter,_,same⟩ := List.mem_map.mp some
    rw [← option_form option] at same
    cases same
  have optioned := options_counted (setOptions [] (settings tokens)) (fun option member => by
    obtain none | some := setOptions_member member
    · cases none
    · exact settings_sound some)
  have counted := parts.countP_eq isOption
  rw [List.countP_append,List.countP_append,given,positionals,filtered] at counted
  have same : (commandOf name raw added tokens).options = setOptions [] (settings tokens) := rfl
  rw [same,optioned] at counted
  omega

theorem option_taken {tokens before later : List Text} {option value : Text} (split : tokens = before ++ option :: value :: later)
    (isAn : isOption option = true) (plain : isOption value = false) :
    (option.drop 2,if (filterRe value).isNone then .text value else .flag) ∈ settings tokens := by
  unfold settings
  rw [split,places_split isAn,List.flatMap_append]
  refine List.mem_append_right _ ?_
  cases found : filterRe value <;> simp [places,isAn,plain,found,Place.option]

theorem values_taken {added tokens : List Text} (once : OptionsOnce tokens) :
    ValuesTaken tokens (commandOf name raw added tokens) ↔ NoFilterAfterOption tokens := by
  have distinct := (settings_once tokens).mpr once
  have same : (commandOf name raw added tokens).options = settings tokens := setOptions_distinct (settings tokens) [] distinct
  unfold ValuesTaken
  rw [same]
  constructor
  · intro taken before option value later split isAn plain
    have meant := taken before option value later split isAn plain
    have got := option_taken split isAn plain
    cases found : filterRe value with
    | none => rfl
    | some filter =>
      simp only [found,Option.isNone_some,Bool.false_eq_true,if_false] at got
      have alike := List.inj_on_of_nodup_map distinct meant got rfl
      cases alike
  · intro free before option value later split isAn plain
    have got := option_taken split isAn plain
    simpa [free before option value later split isAn plain] using got

/- The whole command. -/

theorem proper_fine (proper : ProperArguments tokens) (free : NoFilterAfterOption tokens) : Fine tokens := by
  obtain ⟨positional,filters,options,split,plain,filtered,optioned⟩ := proper
  intro token member
  rw [split,List.mem_append,List.mem_append] at member
  obtain (first | second) | third := member
  · refine ⟨fun bare => ?_,fun found some => ?_⟩
    · have no := (plain token first).1
      rw [bare] at no
      cases no
    · rw [(plain token first).2] at some
      cases some
  · have some := filtered token second
    refine ⟨fun bare => ?_,fun found read => ?_⟩
    · rw [bare] at some
      cases some
    · by_contra wrong
      simp [readFilter,read,wrong] at some
  · obtain ⟨option,within,inside⟩ := List.mem_flatMap.mp third
    obtain ⟨before,later,around⟩ := List.append_of_mem within
    obtain ⟨key,value⟩ := option
    have sound := optioned (key,value) within
    have keyed : ('-' :: '-' :: key : Text) ≠ ['-','-'] ∧ ∀ found, filterRe ('-' :: '-' :: key) = some found →
        malformed (strip found.value) = false := ⟨fun bare => sound.1 (by simpa using bare),fun found read => by cases read⟩
    cases value with
    | flag =>
      rw [List.mem_singleton.mp inside]
      exact keyed
    | text value =>
      obtain same | same := List.mem_pair.mp inside
      · rw [same]
        exact keyed
      · have unfiltered : filterRe value = none := by
          refine free (positional ++ filters ++ before.flatMap optionTokens) ('-' :: '-' :: key) value (later.flatMap optionTokens)
            ?_ rfl (sound.2 value rfl)
          rw [split,around]
          simp [optionTokens]
        rw [same]
        exact fine_value (sound.2 value rfl) unfiltered value (List.mem_singleton_self _)

section
variable {shlex : Text → Option (List Text)} {text body first : Text} {tokens : List Text}

theorem documented_tokens (slash : strip text = '/' :: body) (split : shlex body = some (first :: tokens)) :
    Documented shlex text ↔ properName (lower first) = true ∧ ProperArguments tokens := by
  constructor
  · intro ⟨otherBody,otherFirst,otherTokens,otherSlash,otherSplit,named,proper⟩
    rw [slash] at otherSlash
    cases otherSlash
    rw [split] at otherSplit
    cases otherSplit
    exact ⟨named,proper⟩
  · intro ⟨named,proper⟩
    exact ⟨body,first,tokens,slash,split,named,proper⟩

theorem parse_tokens (slash : strip text = '/' :: body) (split : shlex body = some (first :: tokens)) (named : commandNameRe (lower first) = true) :
    parse shlex text = (parseArguments tokens ⟨(expandName (lower first)).2,[],[]⟩).map
      (fun read => ⟨(expandName (lower first)).1,strip text,read.positional,read.filters,read.options⟩) := by
  simp only [parse,slash,split,named,if_true,bind,Except.bind]
  cases parseArguments tokens ⟨(expandName (lower first)).2,[],[]⟩ <;> rfl

theorem parse_fine (slash : strip text = '/' :: body) (split : shlex body = some (first :: tokens)) (named : commandNameRe (lower first) = true)
    (fine : Fine tokens) :
    parse shlex text = .ok (commandOf (expandName (lower first)).1 (strip text) (expandName (lower first)).2 tokens) := by
  rw [parse_tokens slash split named,parseArguments_fine tokens _ fine]
  simp [Except.map,commandOf,read_positional,read_filters,read_options,settings]

theorem parse_unfine (slash : strip text = '/' :: body) (split : shlex body = some (first :: tokens)) (named : commandNameRe (lower first) = true)
    (unfine : ¬ Fine tokens) : ∃ error, parse shlex text = .error error := by
  obtain ⟨error,refused⟩ := parseArguments_unfine tokens ⟨(expandName (lower first)).2,[],[]⟩ unfine
  exact ⟨error,by rw [parse_tokens slash split named,refused]; rfl⟩

-- A text whose slash, quotes or name are wrong is refused, as the grammar asks.
theorem parse_refused (wrong : ∀ body first tokens, strip text = '/' :: body → shlex body = some (first :: tokens) →
    commandNameRe (lower first) = false) : ∃ error, parse shlex text = .error error := by
  unfold parse
  dsimp only
  split
  next body slash =>
    split
    next => exact ⟨_,rfl⟩
    next => exact ⟨_,rfl⟩
    next first tokens split => exact ⟨_,by rw [wrong body first tokens slash split]; rfl⟩
  next => exact ⟨_,rfl⟩

end

-- A documented command gives no option twice and has nothing like a filter right after
-- an option; any other text has a bare option or a malformed filter, or is no command at all.
def WellUsed (shlex : Text → Option (List Text)) (text : Text) : Prop :=
  ∀ body first tokens, strip text = '/' :: body → shlex body = some (first :: tokens) → commandNameRe (lower first) = true →
    (properName (lower first) = true ∧ ProperArguments tokens → OptionsOnce tokens ∧ NoFilterAfterOption tokens) ∧
    (¬ (properName (lower first) = true ∧ ProperArguments tokens) → ¬ Fine tokens)

theorem faithful_tokens {shlex : Text → Option (List Text)} {text body first : Text}
    (slash : strip text = '/' :: body) (split : shlex body = some (first :: tokens)) (named : commandNameRe (lower first) = true) :
    Faithful shlex text ↔ (properName (lower first) = true ∧ ProperArguments tokens → OptionsOnce tokens ∧ NoFilterAfterOption tokens) ∧
      (¬ (properName (lower first) = true ∧ ProperArguments tokens) → ¬ Fine tokens) := by
  have documented := documented_tokens slash split
  by_cases fine : Fine tokens
  · unfold Faithful
    rw [parse_fine slash split named fine]
    constructor
    · intro ⟨meant,otherBody,otherFirst,otherTokens,otherSlash,otherSplit,_,keeps,taken⟩
      rw [slash] at otherSlash
      cases otherSlash
      rw [split] at otherSplit
      cases otherSplit
      have once := once_kept keeps
      exact ⟨fun _ => ⟨once,(values_taken once).mp taken⟩,fun undocumented => absurd (documented.mp meant) undocumented⟩
    · intro ⟨used,other⟩
      by_cases meant : properName (lower first) = true ∧ ProperArguments tokens
      · obtain ⟨once,free⟩ := used meant
        exact ⟨documented.mpr meant,body,first,tokens,slash,split,rfl,kept_once fine once,(values_taken once).mpr free⟩
      · exact absurd fine (other meant)
  · obtain ⟨error,refused⟩ := parse_unfine slash split named fine
    unfold Faithful
    rw [refused]
    constructor
    · intro undocumented
      exact ⟨fun meant => absurd (documented.mpr meant) undocumented,fun _ => fine⟩
    · intro ⟨used,_⟩ meant
      obtain ⟨_,free⟩ := used (documented.mp meant)
      exact fine (proper_fine (documented.mp meant).2 free)

theorem proper_matches {name : Text} (proper : properName name = true) : commandNameRe name = true := by
  simp [commandNameRe,proper]

-- The parser is faithful to its grammar on the texts so used, and on no other.
theorem command_faithful (shlex : Text → Option (List Text)) (text : Text) : Faithful shlex text ↔ WellUsed shlex text := by
  by_cases named : ∃ body first tokens, strip text = '/' :: body ∧ shlex body = some (first :: tokens) ∧ commandNameRe (lower first) = true
  · obtain ⟨body,first,tokens,slash,split,named⟩ := named
    rw [faithful_tokens slash split named]
    constructor
    · intro used otherBody otherFirst otherTokens otherSlash otherSplit _
      rw [slash] at otherSlash
      cases otherSlash
      rw [split] at otherSplit
      cases otherSplit
      exact used
    · intro used
      exact used body first tokens slash split named
  · have wrong : ∀ body first tokens, strip text = '/' :: body → shlex body = some (first :: tokens) → commandNameRe (lower first) = false := by
      intro body first tokens slash split
      by_contra matched
      exact named ⟨body,first,tokens,slash,split,by simpa using matched⟩
    obtain ⟨error,refused⟩ := parse_refused wrong
    have faithful : Faithful shlex text := by
      unfold Faithful
      rw [refused]
      intro ⟨body,first,tokens,slash,split,proper,_⟩
      exact named ⟨body,first,tokens,slash,split,proper_matches proper⟩
    refine ⟨fun _ body first tokens slash split matched => ?_,fun _ => faithful⟩
    exact absurd ⟨body,first,tokens,slash,split,matched⟩ named

def noteSplit : Text → Option (List Text) := fun body =>
  if body = "note --tag \"a=b\"".toList then some ["note".toList,"--tag".toList,"a=b".toList] else none

-- A quoted option value that looks like a filter becomes a filter.
theorem value_not_taken : ¬ Faithful noteSplit "/note --tag \"a=b\"".toList := by
  intro faithful
  have slash : strip "/note --tag \"a=b\"".toList = '/' :: "note --tag \"a=b\"".toList := by decide
  have split : noteSplit "note --tag \"a=b\"".toList = some ("note".toList :: ["--tag".toList,"a=b".toList]) := if_pos rfl
  have used := (faithful_tokens slash split (by decide)).mp faithful
  have proper : ProperArguments ["--tag".toList,"a=b".toList] :=
    ⟨[],[],[("tag".toList,.text "a=b".toList)],rfl,by simp,by simp,by simp [ProperOption,isOption,List.isPrefixOf]⟩
  have unfiltered := (used.1 ⟨by decide,proper⟩).2 [] "--tag".toList "a=b".toList [] rfl (by decide) (by decide)
  exact absurd unfiltered (by decide)

end OpenStock.Commands
