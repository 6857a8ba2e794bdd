import Mathlib
import AssistantEngine.Proofs.Catalog
import AssistantEngine.Proofs.Settings.Respelling
import AssistantEngine.Proofs.Settings.Substitution
import AssistantEngine.Proofs.Yaml.Quotation

/-!
Values of variables in settings. A reference is replaced before the text is read, so that a value
meets the grammar of the text. In double quotes it is taken as it is if it has no quote, no
backslash and no end of a line in it, and no character that a text may not have.
-/

namespace AssistantEngine

namespace Environment

variable {environment : Environment} {name value : String}

/-! ## A reference in double quotes -/

/-- A name made of letters, digits and underscores. -/
def isName (name : String) : Bool :=
  name ≠ "" && name.toList.all fun character => character.isAlphanum || character = '_'

theorem isName_absent (proper : isName name) {character : Char}
    (other : (character.isAlphanum || character = '_') = false) : character ∉ name.toList := by
  intro member
  simp only [isName, Bool.and_eq_true] at proper
  rw [List.all_eq_true.mp proper.2 character member] at other
  cases other

/-- A text with a reference in double quotes. -/
def quoting (front name rest : String) : String :=
  front ++ "\"$\x7b" ++ name ++ "\x7d\"" ++ rest

theorem toList_quoting (front name rest : String) :
    (quoting front name rest).toList =
      front.toList ++ '"' :: (reference name.toList ++ '"' :: rest.toList) := by
  simp [quoting, reference]

theorem Named.insert (named : Named environment) (proper : isName name) (value : String) :
    Named (environment.insert name value) := by
  intro entry member
  rcases Catalog.mem_insert member with rfl | old
  · refine ⟨?_, isName_absent proper rfl⟩
    simp only [isName, Bool.and_eq_true, decide_eq_true_eq] at proper
    exact proper.1
  · exact named entry old

theorem value?_insert (named : Named environment) (proper : isName name) (value : String) :
    value? (environment.insert name value) name = some value := by
  rw [(named.insert proper value).value?_eq (isName_absent proper rfl),
    Catalog.find?_insert_self]

theorem value?_insert_of_ne (named : Named environment) (proper : isName name) (value : String)
    {other : String} (plain : '=' ∉ other.toList) (different : other ≠ name) :
    value? (environment.insert name value) other = environment.value? other := by
  rw [(named.insert proper value).value?_eq plain, named.value?_eq plain, Catalog.find?_insert,
    if_neg different.symm]

theorem expansion_insert (named : Named environment) (proper : isName name) (value : String) :
    expansion (environment.insert name value) name.toList = value.toList := by
  have something : name.toList ≠ [] := by
    simp only [isName, Bool.and_eq_true, decide_eq_true_eq] at proper
    simpa using proper.1
  have alone : ¬parting <:+: name.toList := by
    intro within
    have colon : ':' ∉ name.toList := isName_absent proper rfl
    exact colon (within.mem (by decide))
  simp only [expansion, splitDefault_of_absent alone, List.isEmpty_iff, something, if_false,
    String.ofList_toList, value?_insert named proper]

/-- A reference in double quotes stands at this place of a text, and only there. Whatever the
variable's value is, what stands in front of the quotes comes to `before` and what stands behind
them to `behind`, and behind `before` a quotation may begin. -/
structure Quotes (environment : Environment) (name front rest : String)
    (before behind : List Char) : Prop where
  front : ∀ (value : String) (following : List Char),
    substituteChars (environment.insert name value) none
        (front.toList ++ '"' :: following) =
      before ++ substituteChars (environment.insert name value) none ('"' :: following)
  rest : ∀ value : String,
    substituteChars (environment.insert name value) none rest.toList = behind
  opens : Yaml.Opens before

theorem Quotes.substitute {front rest : String} {before behind : List Char}
    (quotes : Quotes environment name front rest before behind) (named : Named environment)
    (proper : isName name) (value : String) :
    (substitute (environment.insert name value) (quoting front name rest)).toList =
      before ++ '"' :: (value.toList ++ '"' :: behind) := by
  have closed : '\x7d' ∉ name.toList := isName_absent proper rfl
  have quote (following : List Char) :
      substituteChars (environment.insert name value) none ('"' :: following) =
        '"' :: substituteChars (environment.insert name value) none following := rfl
  rw [toList_substitute, toList_quoting, quotes.front, quote, substituteChars_reference closed,
    expansion_insert named proper, quote, quotes.rest]

end Environment

namespace Settings

open Reading

/-! ## Plain words -/

/-- Letters of any script, digits, underscores and dashes. -/
def isPlain (character : Char) : Bool :=
  Yaml.isWordChar character || (Yaml.isVerbatim character && 0x80 ≤ character.toNat)

def Plain (word : String) : Prop := ∀ character ∈ word.toList, isPlain character

/-- What is taken as it is between double quotes. -/
def Verbatim (value : String) : Prop := ∀ character ∈ value.toList, Yaml.isVerbatim character

theorem toNat_lt_of_isWordChar {character : Char} (word : Yaml.isWordChar character) :
    character.toNat < 0x80 := by
  simp only [Yaml.isWordChar, Bool.or_eq_true, Bool.and_eq_true, decide_eq_true_eq] at word
  rcases word with (((⟨-, digit⟩ | ⟨-, capital⟩) | ⟨-, small⟩) | rfl) | rfl
  · exact Nat.lt_of_le_of_lt digit (by decide)
  · exact Nat.lt_of_le_of_lt capital (by decide)
  · exact Nat.lt_of_le_of_lt small (by decide)
  · decide
  · decide

theorem isVerbatim_of_isPlain {character : Char} (plain : isPlain character) :
    Yaml.isVerbatim character := by
  rcases Bool.or_eq_true _ _ |>.mp plain with word | other
  · have codes : ∀ code < 0x80, Yaml.isWordChar (Char.ofNat code) →
        Yaml.isVerbatim (Char.ofNat code) := by
      decide
    have verbatim := codes character.toNat (toNat_lt_of_isWordChar word)
    rw [Char.ofNat_toNat] at verbatim
    exact verbatim word
  · exact (Bool.and_eq_true _ _ |>.mp other).1

theorem Plain.verbatim {word : String} (plain : Plain word) : Verbatim word :=
  fun character member => isVerbatim_of_isPlain (plain character member)

/-! ## Plugins in the home directory -/

def homePlugins (home : String) : String := Path.join (Path.join home ".switchyard") "plugins"

theorem join_relative {base path : String} (something : base ≠ "")
    (relative : Path.isAbsolute path = false) :
    Path.join base path =
      base ++ (if base.toList.getLast? = some '/' then "" else "/") ++ path := by
  have proper : base.isEmpty = false := by simpa using something
  unfold Path.join
  rw [relative, proper]
  by_cases slash : base.toList.getLast? = some '/' <;> simp [slash]

theorem homePlugins_eq {home : String} (something : home ≠ "") :
    homePlugins home =
      home ++ (if home.toList.getLast? = some '/' then "" else "/") ++ ".switchyard/plugins" := by
  unfold homePlugins
  rw [join_relative something (by decide)]
  generalize (if home.toList.getLast? = some '/' then "" else "/") = slash
  have last : (home ++ slash ++ ".switchyard").toList.getLast? = some 'd' := by
    simp
  rw [join_relative (by simp) (by decide), last]
  simp [String.append_assoc]

theorem slash_mem_homePlugins {home : String} (something : home ≠ "") :
    '/' ∈ (homePlugins home).toList := by
  rw [homePlugins_eq something]
  simp

theorem slash_not_mem {word : String} (plain : Plain word) : '/' ∉ word.toList := fun member =>
  absurd (plain '/' member) (by decide)

theorem homePlugins_plain {word : String} (plain : Plain word) (something : word ≠ "") :
    homePlugins word = word ++ "/.switchyard/plugins" := by
  have last : word.toList.getLast? ≠ some '/' := fun same =>
    slash_not_mem plain (List.mem_of_getLast? same)
  rw [homePlugins_eq something, if_neg last, String.append_assoc]
  rfl

/-- The texts that change where the variable has the value instead of the word. -/
def Replaces (word value text other : String) : Prop :=
  text = other ∨ text = word ∧ other = value ∨
    text = homePlugins word ∧ other = homePlugins value

/-- A quotation of the word, and one of the value in its place. -/
def spellings (mark word value : String) : Reading.Spellings where
  first := Yaml.instead mark word
  second := Yaml.instead mark value
  Same := Replaces word value
  same text := by
    unfold Yaml.instead
    split
    · exact .inr (.inl ⟨rfl, rfl⟩)
    · exact .inl rfl
  refl text := .inl rfl

theorem respects_spellings {mark word value : String} (unnamed : word ∉ fieldNames)
    (foreign : value ∉ fieldNames) (something : word ≠ "") (anything : value ≠ "") :
    (spellings mark word value).Respects := by
  have outside {home : String} (something : home ≠ "") : homePlugins home ∉ fieldNames := by
    intro member
    have plain : ∀ name ∈ fieldNames, '/' ∉ name.toList := by decide
    exact plain _ member (slash_mem_homePlugins something)
  rintro text other (rfl | ⟨rfl, rfl⟩ | ⟨rfl, rfl⟩)
  · exact .inl rfl
  · exact .inr ⟨unnamed, foreign⟩
  · exact .inr ⟨outside something, outside anything⟩

/-- A text that comes of two different words comes of the variable. -/
theorem determines_value {first second value : String} (plain : Plain first)
    (alsoPlain : Plain second) (something : first ≠ "") (anything : second ≠ "")
    (different : first ≠ second) :
    Determines (Replaces first value) (Replaces second value) first second value := by
  have apart {word other : String} (plain : Plain word) (something : other ≠ "") :
      word ≠ homePlugins other := fun same =>
    slash_not_mem plain (same ▸ slash_mem_homePlugins something)
  have homes : homePlugins first ≠ homePlugins second := by
    rw [homePlugins_plain plain something, homePlugins_plain alsoPlain anything]
    exact fun same => different (String.append_left_inj _ |>.mp same)
  constructor
  · rintro text result (rfl | ⟨rfl, rfl⟩ | ⟨rfl, rfl⟩) (same | ⟨same, -⟩ | ⟨same, -⟩)
    · rfl
    · rfl
    · rfl
    · exact same.symm
    · exact absurd same different
    · exact absurd same (apart plain anything)
    · exact same.symm
    · exact absurd same.symm (apart alsoPlain something)
    · exact absurd same homes
  · rintro result (rfl | ⟨-, rfl⟩ | ⟨same, -⟩) (other | ⟨-, other⟩ | ⟨other, -⟩)
    · exact absurd other.symm different
    · exact other
    · exact absurd other (apart alsoPlain anything)
    · rfl
    · rfl
    · rfl
    · exact absurd same (apart plain something)
    · exact other
    · exact absurd same (apart plain something)

/-! ## Default directories -/

theorem forall₂_replaces_self (word value : String) (texts : List String) :
    List.Forall₂ (Replaces word value) texts texts :=
  List.forall₂_same.mpr fun _ _ => .inl rfl

theorem replaces_defaults {environment : Environment} (named : environment.Named) {name : String}
    (proper : Environment.isName name) {word value : String} (something : word ≠ "")
    (anything : value ≠ "") :
    List.Forall₂ (Replaces word value)
      (defaultPluginDirectories (environment.insert name word))
      (defaultPluginDirectories (environment.insert name value)) := by
  by_cases home : "HOME" = name
  · subst home
    have beside {value : String} (something : value ≠ "") :
        defaultPluginDirectories (environment.insert "HOME" value) =
          ["plugins", homePlugins value] := by
      have proper : value.isEmpty = false := by simpa using something
      unfold defaultPluginDirectories
      rw [Environment.value?_insert named (by decide)]
      dsimp only
      rw [proper]
      rfl
    rw [beside something, beside anything]
    exact .cons (.inl rfl) (.cons (.inr (.inr ⟨rfl, rfl⟩)) .nil)
  · have same (value : String) : defaultPluginDirectories (environment.insert name value) =
        defaultPluginDirectories environment := by
      unfold defaultPluginDirectories
      rw [Environment.value?_insert_of_ne named proper value (by decide) home]
    rw [same, same]
    exact forall₂_replaces_self word value _

/-! ## Values read as words are -/

/-- Texts that take up the same bytes, character by character. -/
def SameShape (text other : String) : Prop :=
  text.toList.map Char.utf8Size = other.toList.map Char.utf8Size

theorem SameShape.eq_empty {text other : String} (shape : SameShape text other)
    (empty : text = "") : other = "" := by
  subst empty
  have nothing : other.toList.map Char.utf8Size = [] := shape.symm
  simpa using nothing

variable {environment : Environment} {name front rest : String} {before behind : List Char}
  {field : TextField} {settings : Settings}

theorem ofYaml_eq_ok_iff {text : String} :
    ofYaml environment text = .ok settings ↔
      ofYaml? (read environment) (environment.substitute text) = some settings := by
  unfold ofYaml
  cases ofYaml? (read environment) (environment.substitute text) <;> simp

/-- The text is read as one document, in which the values of one shape take the same place. -/
theorem exists_document (quotes : environment.Quotes name front rest before behind)
    (named : environment.Named) (proper : Environment.isName name) (shape : String) :
    ∃ (document : Option Yaml.Document) (mark : String), ∀ (value : String) (settings : Settings),
      Verbatim value → SameShape value shape →
      (ofYaml (environment.insert name value) (Environment.quoting front name rest) =
          .ok settings ↔
        ∃ found ∈ document, settings ∈ ofDocument? (read (environment.insert name value))
          (found.respelled (Yaml.instead mark value))) := by
  obtain ⟨document, mark, found⟩ := quotes.opens.document behind shape.toList.length
    (Yaml.byteCount shape.toList)
  refine ⟨document, mark, fun value settings verbatim same => ?_⟩
  have long : value.toList.length = shape.toList.length := by
    simpa using congrArg List.length same
  have read := found value.toList verbatim long (congrArg (List.foldr (· + ·) 0) same)
  rw [String.ofList_toList] at read
  rw [ofYaml_eq_ok_iff, ofYaml?_eq, quotes.substitute named proper, read, Option.bind_map,
    Option.bind_eq_some_iff]
  rfl

/-- If two different words are read in one field, so is every text that stands for itself. -/
theorem ofYaml_eq_of_two (quotes : environment.Quotes name front rest before behind)
    (named : environment.Named) (proper : Environment.isName name) {first second value : String}
    (plain : Plain first) (alsoPlain : Plain second) (different : first ≠ second)
    (unnamed : first ∉ fieldNames) (alsoUnnamed : second ∉ fieldNames)
    (foreign : value ∉ fieldNames) (shape : SameShape first value)
    (sameShape : SameShape second value) (verbatim : Verbatim value)
    (one : ofYaml (environment.insert name first) (Environment.quoting front name rest) =
      .ok (field.set first settings))
    (two : ofYaml (environment.insert name second) (Environment.quoting front name rest) =
      .ok (field.set second settings)) :
    ofYaml (environment.insert name value) (Environment.quoting front name rest) =
      .ok (field.set value settings) := by
  obtain ⟨document, mark, found⟩ := exists_document quotes named proper value
  have something : first ≠ "" := fun empty =>
    different (empty.trans (SameShape.eq_empty (shape.trans sameShape.symm) empty).symm)
  have anything : second ≠ "" := fun empty =>
    different ((SameShape.eq_empty (sameShape.trans shape.symm) empty).trans empty.symm)
  have nonempty : value ≠ "" := fun empty => something (SameShape.eq_empty shape.symm empty)
  obtain ⟨here, holds, one⟩ := (found first _ plain.verbatim shape).mp one
  obtain ⟨_, again, two⟩ := (found second _ alsoPlain.verbatim sameShape).mp two
  cases Option.mem_unique holds again
  -- Each of the words is imitated by the value, and both by the same settings.
  have imitated {word : String} (something : word ≠ "") (unnamed : word ∉ fieldNames)
      {settings : Settings}
      (given : settings ∈ ofDocument? (read (environment.insert name word))
        (here.respelled (Yaml.instead mark word))) :
      ∃ result ∈ ofDocument? (read (environment.insert name value))
          (here.respelled (Yaml.instead mark value)),
        settings.Alike (Replaces word value) result := by
    have respects : (spellings mark word value).Respects :=
      respects_spellings unnamed foreign something nonempty
    have directories := replaces_defaults named proper something nonempty
    exact Spellings.Imitates.ofDocument? (fun _ _ data => imitates_read respects directories data)
      here settings given
  obtain ⟨result, given, alike⟩ := imitated something unnamed one
  obtain ⟨_, again, alsoAlike⟩ := imitated anything alsoUnnamed two
  cases Option.mem_unique given again
  have told : result = field.set value settings :=
    (determines_value plain alsoPlain something anything different).eq_set alike alsoAlike
  rw [told] at given
  exact (found value _ verbatim rfl).mpr ⟨here, holds, given⟩

/-! ## Words of every shape -/

/-- One of two letters that take up as many bytes as the character. -/
def letter (other : Bool) (character : Char) : Char :=
  match character.utf8Size with
  | 1 => if other then 'y' else 'x'
  | 2 => if other then 'ê' else 'é'
  | 3 => if other then '丁' else '中'
  | _ => if other then '𝕐' else '𝕏'

theorem utf8Size_letter (other : Bool) (character : Char) :
    (letter other character).utf8Size = character.utf8Size := by
  have least := character.utf8Size_pos
  have greatest := character.utf8Size_le_four
  unfold letter
  generalize character.utf8Size = size at *
  obtain rfl | rfl | rfl | rfl : size = 1 ∨ size = 2 ∨ size = 3 ∨ size = 4 := by omega
  all_goals cases other <;> rfl

def letters : List Char := ['x', 'y', 'é', 'ê', '中', '丁', '𝕏', '𝕐']

theorem letter_mem (other : Bool) (character : Char) : letter other character ∈ letters := by
  unfold letter
  split <;> cases other <;> decide

/-- A word of the same shape, made of such letters. -/
def standIn (other : Bool) (text : String) : String :=
  String.ofList (text.toList.map (letter other))

theorem sameShape_standIn (other : Bool) (text : String) : SameShape (standIn other text) text := by
  simp [SameShape, standIn, Function.comp_def, utf8Size_letter]

theorem plain_standIn (other : Bool) (text : String) : Plain (standIn other text) := by
  intro character member
  simp only [standIn, String.toList_ofList, List.mem_map] at member
  obtain ⟨original, -, rfl⟩ := member
  have plain : letters.all isPlain := by decide
  exact List.all_eq_true.mp plain _ (letter_mem other original)

theorem head?_standIn {text : String} (something : text ≠ "") :
    ∃ first, ∀ other, (standIn other text).toList.head? = some (letter other first) := by
  cases characters : text.toList with
  | nil => exact absurd (String.toList_eq_nil_iff.mp characters) something
  | cons first rest => exact ⟨first, fun other => by simp [standIn, characters]⟩

theorem standIn_not_mem {text : String} (something : text ≠ "") (other : Bool) :
    standIn other text ∉ fieldNames := by
  intro member
  obtain ⟨first, begins⟩ := head?_standIn something
  have names : ∀ name ∈ fieldNames, letters.all (name.toList.head? ≠ some ·) := by decide
  have apart := List.all_eq_true.mp (names _ member) _ (letter_mem other first)
  exact of_decide_eq_true apart (begins other)

theorem standIn_different {text : String} (something : text ≠ "") :
    standIn false text ≠ standIn true text := by
  intro same
  obtain ⟨first, begins⟩ := head?_standIn something
  have letters : letter false first = letter true first :=
    Option.some.inj ((begins false).symm.trans (same ▸ begins true))
  revert letters
  unfold letter
  split <;> decide

theorem plain_of_mem {name : String} (member : name ∈ fieldNames) : Plain name := by
  have names : ∀ name ∈ fieldNames, name.toList.all isPlain := by decide
  exact List.all_eq_true.mp (names name member)

/-- What is read in one field for each plain word is read there for every value that stands for
itself. -/
theorem ofYaml_eq_of_words (quotes : environment.Quotes name front rest before behind)
    (named : environment.Named) (proper : Environment.isName name) {value : String}
    (verbatim : Verbatim value)
    (words : ∀ word, Plain word → SameShape word value →
      ofYaml (environment.insert name word) (Environment.quoting front name rest) =
        .ok (field.set word settings)) :
    ofYaml (environment.insert name value) (Environment.quoting front name rest) =
      .ok (field.set value settings) := by
  by_cases plain : Plain value
  · exact words value plain rfl
  · have something : value ≠ "" := by
      rintro rfl
      exact plain nofun
    have foreign : value ∉ fieldNames := fun member => plain (plain_of_mem member)
    have read (other : Bool) := words (standIn other value) (plain_standIn other value)
      (sameShape_standIn other value)
    exact ofYaml_eq_of_two quotes named proper (plain_standIn false value)
      (plain_standIn true value) (standIn_different something) (standIn_not_mem something false)
      (standIn_not_mem something true) foreign (sameShape_standIn false value)
      (sameShape_standIn true value) verbatim (read false) (read true)

/-! ## The key of a model service -/

/-- The scan in front of the key, which stands in the second line of the model's settings. -/
def beforeKey (offset line : Nat) : Yaml.Scan :=
  { cursor := { rest := [], offset := offset, line := line, column := 11 }
    tokens := [.value, .scalar "api_key" .plain, .key, .blockMappingStart, .value,
      .scalar "model" .plain, .key, .blockMappingStart]
    count := 8
    indent := 2
    outerIndents := [0, -1]
    keyAllowed := false }

/-- What is read from a document that has nothing in it but the key, given by a variable. -/
def withKey (environment : Environment) (name value : String) : Except Fault Settings :=
  ofYaml (environment.insert name value) (Environment.quoting "model:\n  api_key: " name "\n")

theorem atToken_beforeKey (rest : List Char) :
    Yaml.Scan.atToken 4 (rest.length + ("model:\n  api_key: ".toList.length + 3))
        (Yaml.Scan.ofChars ("model:\n  api_key: ".toList ++ '"' :: rest)) =
      some ((beforeKey 18 1).facing ('"' :: rest)) := by
  cbv

theorem quotes_key (environment : Environment) (name : String) :
    environment.Quotes name "model:\n  api_key: " "\n" "model:\n  api_key: ".toList
      "\n".toList where
  front _ _ := rfl
  rest _ := rfl
  opens := ⟨4, by decide, beforeKey 18 1, atToken_beforeKey⟩

/-- The tokens of that document, with this one for the key. -/
def keyTokens (text : Yaml.Token) : List Yaml.Token :=
  [.blockMappingStart, .key, .scalar "model" .plain, .value, .blockMappingStart, .key,
    .scalar "api_key" .plain, .value, text, .blockEnd, .blockEnd]

def keyDocument (key : String) : Yaml.Document :=
  { root := .mapping none [(.scalar "model" .plain none,
      .mapping none [(.scalar "api_key" .plain none, .scalar key .quoted none)])]
    anchors := {} }

theorem run_beforeKey (length bytes : Nat) :
    ((beforeKey 18 1).saveKey.bind fun scan =>
      Yaml.Scan.run ("model:\n  api_key: ".toList.length - 4 + (length + "\n".toList.length + 3))
        (scan.pastQuotation length bytes "\n".toList .blank)) = some (keyTokens .blank) := by
  cbv

theorem map_fill_keyTokens (key : List Char) :
    (keyTokens .blank).map (Yaml.Token.fill key) =
      keyTokens (.scalar (String.ofList key) .quoted) := by
  simp [keyTokens, Yaml.Token.fill, Yaml.Token.blank]

theorem ofTokens?_keyTokens (key : String) :
    Yaml.Document.ofTokens? (keyTokens (.scalar key .quoted)) = some (keyDocument key) := by
  cbv

theorem ofDocument?_keyDocument (environment : Environment) (key : String) :
    ofDocument? (read environment) (keyDocument key) =
      some (TextField.apiKey.set key (default environment)) := rfl

/-- Every key that stands for itself is read, and nothing else is changed. -/
theorem withKey_eq (named : environment.Named) (proper : Environment.isName name) {value : String}
    (verbatim : Verbatim value) :
    withKey environment name value =
      .ok (TextField.apiKey.set value (default (environment.insert name value))) := by
  have allowed : ("model:\n  api_key: ".toList ++ "\n".toList).all Yaml.isAllowedChar := by decide
  have tokens := Yaml.Token.ofChars?_quotation (by decide) atToken_beforeKey verbatim allowed
  rw [run_beforeKey, Option.map_some, map_fill_keyTokens, String.ofList_toList] at tokens
  rw [withKey, ofYaml_eq_ok_iff, ofYaml?_eq, (quotes_key environment name).substitute named proper,
    Yaml.Document.ofChars?, tokens, Option.bind_some, ofTokens?_keyTokens, Option.bind_some,
    ofDocument?_keyDocument]

/-- A value that stands for itself in quotes is taken as it is. The document that has nothing in it
but the key is read, and the key is the value. And if a document is read for each plain word, with
the word in one of its fields, it is read for the value, with the value in that field and all other
settings the same. -/
theorem variable_taken_verbatim (named : environment.Named) (proper : Environment.isName name)
    {value : String} (verbatim : Verbatim value) :
    withKey environment name value =
        .ok (TextField.apiKey.set value (default (environment.insert name value))) ∧
      ∀ (front rest : String) (before behind : List Char) (field : TextField) (settings : Settings),
        environment.Quotes name front rest before behind →
        (∀ word, Plain word → SameShape word value →
          ofYaml (environment.insert name word) (Environment.quoting front name rest) =
            .ok (field.set word settings)) →
        ofYaml (environment.insert name value) (Environment.quoting front name rest) =
          .ok (field.set value settings) :=
  ⟨withKey_eq named proper verbatim, fun _ _ _ _ _ _ quotes words =>
    ofYaml_eq_of_words quotes named proper verbatim words⟩

def household : Environment := [("HOME", "/home/ann")]

theorem named_household : household.Named := by simp [Environment.Named, household]

theorem quotes_household :
    household.Quotes "API_KEY" "# Local.\nmodel:\n  api_key: " "\n  model: small\n"
      "# Local.\nmodel:\n  api_key: ".toList "\n  model: small\n".toList where
  front _ _ := rfl
  rest _ := rfl
  opens := ⟨4, by decide, beforeKey 27 2, fun _ => by cbv⟩

def smallModel : Settings := { default household with model := { model := "small" } }

theorem variable_taken_verbatim_api_key :
    Verbatim "clé #1: \x7bx\x7d " ∧
      withKey household "API_KEY" "clé #1: \x7bx\x7d " =
        .ok (TextField.apiKey.set "clé #1: \x7bx\x7d " (default household)) ∧
      ofYaml (household.insert "API_KEY" "clé #1: \x7bx\x7d ")
          (Environment.quoting "# Local.\nmodel:\n  api_key: " "API_KEY" "\n  model: small\n") =
        .ok (TextField.apiKey.set "clé #1: \x7bx\x7d " smallModel) := by
  have verbatim : Verbatim "clé #1: \x7bx\x7d " := List.all_eq_true.mp (by decide)
  obtain ⟨alone, beside⟩ := variable_taken_verbatim named_household
    (show Environment.isName "API_KEY" by decide) verbatim
  refine ⟨verbatim, alone, beside _ _ _ _ .apiKey smallModel quotes_household ?_⟩
  intro word plain shape
  -- Two words are read; so every word of their shape is.
  have foreign : word ∉ fieldNames := by
    intro member
    have shapes : ∀ name ∈ fieldNames,
        name.toList.map Char.utf8Size ≠ "clé #1: \x7bx\x7d ".toList.map Char.utf8Size := by
      decide
    exact shapes word member shape
  have first : SameShape "abécdefghijk" word := Eq.trans (by decide) shape.symm
  have second : SameShape "lménopqrstuv" word := Eq.trans (by decide) shape.symm
  exact ofYaml_eq_of_two quotes_household named_household (by decide)
    (List.all_eq_true.mp (by decide)) (List.all_eq_true.mp (by decide)) (by decide) (by decide)
    (by decide) foreign first second plain.verbatim (ofYaml_eq_ok_iff.mpr (by decide +kernel))
    (ofYaml_eq_ok_iff.mpr (by decide +kernel))

/-- A backslash in a value begins an escape, a quote ends the text, and what follows it may be read
as another field. -/
theorem variable_not_taken_verbatim :
    withKey [] "KEY" "ab" = .ok (TextField.apiKey.set "ab" (default [])) ∧
      withKey [] "KEY" "a\\tb" = .ok (TextField.apiKey.set "a\tb" (default [])) ∧
      withKey [] "KEY" "a\"b" = .error (.config "Failed to parse engine config") ∧
      withKey [] "KEY" "a\"\n  adapter: \"b" =
        .ok (TextField.adapter.set "b" (TextField.apiKey.set "a" (default []))) := by
  refine ⟨ofYaml_eq_ok_iff.mpr (by decide +kernel), ofYaml_eq_ok_iff.mpr (by decide +kernel), ?_,
    ofYaml_eq_ok_iff.mpr (by decide +kernel)⟩
  have unread : ofYaml? (read (Catalog.insert [] "KEY" "a\"b"))
      (Environment.substitute (Catalog.insert [] "KEY" "a\"b")
        (Environment.quoting "model:\n  api_key: " "KEY" "\n")) = none := by
    decide +kernel
  unfold withKey ofYaml
  rw [unread]

end Settings

end AssistantEngine
