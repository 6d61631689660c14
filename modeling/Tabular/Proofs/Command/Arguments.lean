import Tabular.Command.Arguments
import Tabular.Proofs.Outcome

/-!
Which arguments ask for a table, and what they say. They are options in any of their spellings and
files, one after another, and after a word that ends the options only files.
-/

namespace Tabular.Command

/-- What one option says, or one file. -/
inductive Item where
  | file (path : String)
  | output (path : String)
  | header
  | lineEnd (style : Table.LineEnd)

namespace Item

/-- The file that an item names as input. -/
def file? : Item → Option String
  | file path => some path
  | _ => none

/-- The file that an item names as output. -/
def output? : Item → Option String
  | output path => some path
  | _ => none

/-- Whether an item asks for column names. -/
def header? : Item → Option Unit
  | header => some ()
  | _ => none

/-- The way to end lines that an item asks for. -/
def lineEnd? : Item → Option Table.LineEnd
  | lineEnd style => some style
  | _ => none

end Item

/-- How a way to end lines is named. -/
def styleName : Table.LineEnd → String
  | .lf => "lf"
  | .crlf => "crlf"

/-- A word that is no option: it does not begin with a dash, or has nothing behind it. -/
def IsPlain (word : String) : Prop :=
  word = "-" ∨ word.toList.head? ≠ some '-'

/-- The words by which an item may be written. -/
inductive Spells : Item → List String → Prop where
  | file {path : String} (nonempty : path ≠ "") (plain : IsPlain path) : Spells (.file path) [path]
  | header : Spells .header ["--header"]
  | outputApart {option path : String} (isOption : option = "-o" ∨ option = "--output")
      (nonempty : path ≠ "") (plain : IsPlain path) : Spells (.output path) [option, path]
  | outputJoined {option path : String} (isOption : option = "-o=" ∨ option = "--output=")
      (nonempty : path ≠ "") : Spells (.output path) [option ++ path]
  | outputAttached {path : String} (nonempty : path ≠ "")
      (plain : path.toList.head? ≠ some '=') : Spells (.output path) ["-o" ++ path]
  | lineEndApart {style : Table.LineEnd} : Spells (.lineEnd style) ["--eol", styleName style]
  | lineEndJoined {style : Table.LineEnd} :
      Spells (.lineEnd style) ["--eol=" ++ styleName style]

/-- Arguments by which a list of items is written. -/
inductive Written : List String → List Item → Prop where
  | done : Written [] []
  | step {item : Item} {words rest : List String} {items : List Item} (first : Spells item words)
      (later : Written rest items) : Written (words ++ rest) (item :: items)
  | files {paths : List String} (nonempty : ∀ path ∈ paths, path ≠ "") :
      Written ("--" :: paths) (paths.map .file)

/-- The name that an item holds is not empty. -/
def Item.Named : Item → Prop
  | file path | output path => path ≠ ""
  | _ => True

theorem Spells.named {item : Item} {words : List String} (h : Spells item words) : item.Named := by
  cases h with
  | file hSome => exact hSome
  | outputApart _ hSome => exact hSome
  | outputJoined _ hSome => exact hSome
  | outputAttached hSome => exact hSome
  | _ => trivial

/-- What is known after some values were said: what was known before, or the one that was said. -/
inductive Gets {α : Type} : Option α → List α → Option α → Prop where
  | kept {known : Option α} : Gets known [] known
  | said {x : α} : Gets none [x] (some x)

/-- The request to show column names, if it is given. -/
def Given.header? (given : Given) : Option Unit :=
  if given.header then some () else none

/-- What is given in the end is what was given before and what the items say, nothing twice. -/
structure Adds (given : Given) (items : List Item) (final : Given) : Prop where
  input : Gets given.input (items.filterMap Item.file?) final.input
  output : Gets given.output (items.filterMap Item.output?) final.output
  header : Gets given.header? (items.filterMap Item.header?) final.header?
  lineEnd : Gets given.lineEnd (items.filterMap Item.lineEnd?) final.lineEnd

/-- The arguments are written as items, none of them said twice, which come to these settings. -/
def Settings.WrittenIn (settings : Settings) (arguments : List String) : Prop :=
  ∃ items given, Written arguments items ∧ Adds {} items given ∧ given.settings = settings

/-- An argument as it is written. -/
def Argument.text : Argument → String
  | endOfOptions => "--"
  | long name none => "--" ++ name
  | long name (some value) => "--" ++ name ++ "=" ++ value
  | short letter rest => String.ofList ('-' :: letter :: rest)
  | file path => path

/-- How an argument looks tells all of it. -/
theorem Argument.text_ofString (argument : String) : (ofString argument).text = argument := by
  rw [← String.toList_inj, ofString]
  split
  · next h => simp [text, h]
  · next body hNot h =>
      have hBody := @List.takeWhile_append_dropWhile _ (· != '=') body
      have hMark := List.head?_dropWhile_not (· != '=') body
      split
      · next hValue =>
          rw [hValue, List.append_nil] at hBody
          simp [text, h, hBody]
      · next mark value hValue =>
          obtain rfl : mark = '=' := by simpa [hValue] using hMark
          rw [hValue] at hBody
          simp [text, h, hBody]
  · next h => simp [text, h]
  · rfl

theorem Argument.ofString_eq_file_iff {word path : String} :
    ofString word = .file path ↔ path = word ∧ IsPlain word := by
  rw [ofString]
  constructor
  · intro h
    split at h
    · cases h
    · split at h <;> cases h
    · cases h
    · next hNoOption =>
        refine ⟨(Argument.file.inj h).symm, ?_⟩
        cases hWord : word.toList with
        | nil => exact .inr (by simp [hWord])
        | cons c cs =>
            by_cases hDash : c = '-'
            · cases cs with
              | nil => exact .inl (String.toList_inj.mp (by simp [hWord, hDash]))
              | cons letter rest => exact absurd (hDash ▸ hWord) (hNoOption letter rest)
            · exact .inr (by simp [hWord, hDash])
  · rintro ⟨rfl, rfl | hPlain⟩
    · rfl
    · split <;> simp_all

variable {given next final : Given} {item : Item} {items : List Item} {settings : Settings}

namespace Given

/-- Take what one item says. -/
def take (given : Given) : Item → Except UsageError Given
  | .file path => given.setInput path
  | .output path => given.setOutput path
  | .header => given.setHeader
  | .lineEnd style => given.setLineEnd (styleName style)

theorem setInput_eq_ok_iff {path : String} :
    given.setInput path = .ok next ↔
      given.input = none ∧ path ≠ "" ∧ next = { given with input := some path } := by
  rw [setInput]
  split
  · next hGiven => simp [Option.isSome_iff_ne_none.mp hGiven]
  · split <;> simp_all [eq_comm (a := next)]

theorem setOutput_eq_ok_iff {path : String} :
    given.setOutput path = .ok next ↔
      given.output = none ∧ path ≠ "" ∧ next = { given with output := some path } := by
  rw [setOutput]
  split
  · next hGiven => simp [Option.isSome_iff_ne_none.mp hGiven]
  · split <;> simp_all [eq_comm (a := next)]

theorem setHeader_eq_ok_iff :
    given.setHeader = .ok next ↔ given.header = false ∧ next = { given with header := true } := by
  rw [setHeader]
  cases given.header <;> simp [eq_comm]

theorem setLineEnd_eq_ok_iff {style : Table.LineEnd} :
    given.setLineEnd (styleName style) = .ok next ↔
      given.lineEnd = none ∧ next = { given with lineEnd := some style } := by
  rw [setLineEnd]
  cases given.lineEnd with
  | some other => simp
  | none => cases style <;> simp [styleName, eq_comm]

/-- The way to end lines is named by one of two words. -/
theorem exists_styleName_of_setLineEnd {value : String} (h : given.setLineEnd value = .ok next) :
    ∃ style, value = styleName style := by
  rw [setLineEnd] at h
  split at h
  · cases h
  split at h
  · next hName => exact ⟨.lf, hName⟩
  split at h
  · next hName => exact ⟨.crlf, hName⟩
  · cases h

end Given

theorem gets_nil_iff {α : Type} {known after : Option α} : Gets known [] after ↔ after = known := by
  constructor
  · rintro ⟨⟩
    rfl
  · rintro rfl
    exact .kept

/-- A value that is said must be the only one. -/
theorem gets_cons_iff {α : Type} {known after : Option α} {x : α} {xs : List α} :
    Gets known (x :: xs) after ↔ known = none ∧ Gets (some x) xs after := by
  constructor
  · rintro ⟨⟩
    exact ⟨rfl, .kept⟩
  · rintro ⟨rfl, hRest⟩
    cases hRest
    exact .said

theorem Given.header?_eq_none_iff : given.header? = none ↔ given.header = false := by
  simp [header?]

theorem adds_nil_iff : Adds given [] final ↔ final = given := by
  constructor
  · rintro ⟨hInput, hOutput, hHeader, hLineEnd⟩
    simp only [List.filterMap_nil, gets_nil_iff] at hInput hOutput hHeader hLineEnd
    obtain ⟨input, output, header, lineEnd⟩ := given
    obtain ⟨input', output', header', lineEnd'⟩ := final
    have hSame : header' = header := by
      cases header <;> cases header' <;> simp_all [Given.header?]
    simp_all
  · rintro rfl
    exact ⟨.kept, .kept, .kept, .kept⟩

/-- The first item is taken, and then the others are. -/
theorem adds_cons_iff (h : item.Named) :
    Adds given (item :: items) final ↔
      ∃ next, given.take item = .ok next ∧ Adds next items final := by
  cases item with
  | file path =>
      simp only [Given.take, Given.setInput_eq_ok_iff]
      constructor
      · rintro ⟨hInput, hOutput, hHeader, hLineEnd⟩
        obtain ⟨hNone, hRest⟩ := gets_cons_iff.mp hInput
        exact ⟨_, ⟨hNone, h, rfl⟩, hRest, hOutput, hHeader, hLineEnd⟩
      · rintro ⟨next, ⟨hNone, -, rfl⟩, hInput, hOutput, hHeader, hLineEnd⟩
        exact ⟨gets_cons_iff.mpr ⟨hNone, hInput⟩, hOutput, hHeader, hLineEnd⟩
  | output path =>
      simp only [Given.take, Given.setOutput_eq_ok_iff]
      constructor
      · rintro ⟨hInput, hOutput, hHeader, hLineEnd⟩
        obtain ⟨hNone, hRest⟩ := gets_cons_iff.mp hOutput
        exact ⟨_, ⟨hNone, h, rfl⟩, hInput, hRest, hHeader, hLineEnd⟩
      · rintro ⟨next, ⟨hNone, -, rfl⟩, hInput, hOutput, hHeader, hLineEnd⟩
        exact ⟨hInput, gets_cons_iff.mpr ⟨hNone, hOutput⟩, hHeader, hLineEnd⟩
  | header =>
      simp only [Given.take, Given.setHeader_eq_ok_iff]
      constructor
      · rintro ⟨hInput, hOutput, hHeader, hLineEnd⟩
        obtain ⟨hNone, hRest⟩ := gets_cons_iff.mp hHeader
        exact ⟨_, ⟨Given.header?_eq_none_iff.mp hNone, rfl⟩, hInput, hOutput, hRest, hLineEnd⟩
      · rintro ⟨next, ⟨hNone, rfl⟩, hInput, hOutput, hHeader, hLineEnd⟩
        exact ⟨hInput, hOutput, gets_cons_iff.mpr ⟨Given.header?_eq_none_iff.mpr hNone, hHeader⟩,
          hLineEnd⟩
  | lineEnd style =>
      simp only [Given.take, Given.setLineEnd_eq_ok_iff]
      constructor
      · rintro ⟨hInput, hOutput, hHeader, hLineEnd⟩
        obtain ⟨hNone, hRest⟩ := gets_cons_iff.mp hLineEnd
        exact ⟨_, ⟨hNone, rfl⟩, hInput, hOutput, hHeader, hRest⟩
      · rintro ⟨next, ⟨hNone, rfl⟩, hInput, hOutput, hHeader, hLineEnd⟩
        exact ⟨hInput, hOutput, hHeader, gets_cons_iff.mpr ⟨hNone, hLineEnd⟩⟩

theorem separateValue_eq_ok_iff {option value : String} {words rest : List String} :
    separateValue option words = .ok (value, rest) ↔ words = value :: rest ∧ IsPlain value := by
  cases words with
  | nil => simp [separateValue]
  | cons word words =>
      rw [separateValue]
      split
      · next path hFile =>
          obtain ⟨-, hPlain⟩ := Argument.ofString_eq_file_iff.mp hFile
          simp only [Except.ok.injEq, Prod.mk.injEq, List.cons.injEq]
          exact ⟨fun h => ⟨h, h.1 ▸ hPlain⟩, fun h => h.1⟩
      · next hNoFile =>
          have hNot : ¬ IsPlain word := fun hPlain =>
            hNoFile word (Argument.ofString_eq_file_iff.mpr ⟨rfl, hPlain⟩)
          simp only [reduceCtorEq, List.cons.injEq, false_iff]
          rintro ⟨⟨rfl, -⟩, hPlain⟩
          exact hNot hPlain

/-- After the end of the options there are only files. -/
theorem readFiles_eq_render_iff {paths : List String} :
    readFiles given paths = .ok (.render settings) ↔
      (∀ path ∈ paths, path ≠ "") ∧
        ∃ final, Adds given (paths.map .file) final ∧ final.settings = settings := by
  induction paths generalizing given with
  | nil => simp [readFiles, adds_nil_iff]
  | cons path paths ih =>
      rw [readFiles, bind_eq_ok_iff, List.forall_mem_cons, List.map_cons]
      constructor
      · rintro ⟨next, hTake, hRest⟩
        have hNamed := (Given.setInput_eq_ok_iff.mp hTake).2.1
        obtain ⟨hAll, final, hAdds, hSettings⟩ := ih.mp hRest
        have hItem : (Item.file path).Named := hNamed
        exact ⟨⟨hNamed, hAll⟩, final, (adds_cons_iff hItem).mpr ⟨next, hTake, hAdds⟩, hSettings⟩
      · rintro ⟨⟨hNamed, hAll⟩, final, hAdds, hSettings⟩
        have hItem : (Item.file path).Named := hNamed
        obtain ⟨next, hTake, hRest⟩ := (adds_cons_iff hItem).mp hAdds
        exact ⟨next, hTake, ih.mpr ⟨hAll, final, hRest, hSettings⟩⟩

theorem Given.named_of_take (h : given.take item = .ok next) : item.Named := by
  cases item with
  | file path => exact (setInput_eq_ok_iff.mp h).2.1
  | output path => exact (setOutput_eq_ok_iff.mp h).2.1
  | _ => trivial

theorem Spells.words_ne_nil {words : List String} (h : Spells item words) : words ≠ [] := by
  cases h <;> exact List.cons_ne_nil _ _

/-- An item is read from the front of these arguments, and then the rest of them. -/
def ReadsItem (given : Given) (fuel : Nat) (arguments : List String) (settings : Settings) : Prop :=
  ∃ item words next left, Spells item words ∧ arguments = words ++ left ∧
    given.take item = .ok next ∧ readWithin next fuel left = .ok (.render settings)

theorem readsItem_of_take {fuel : Nat} {left : List String} (item : Item) (words : List String)
    (hSpells : item.Named → Spells item words)
    (h : (do readWithin (← given.take item) fuel left) = .ok (.render settings)) :
    ReadsItem given fuel (words ++ left) settings := by
  obtain ⟨next, hTake, hRest⟩ := bind_eq_ok_iff.mp h
  exact ⟨item, words, next, left, hSpells (Given.named_of_take hTake), rfl, hTake, hRest⟩

/-- As for other items, but the words are found to be those of a way to end lines on the way. -/
theorem readsItem_of_lineEnd {fuel : Nat} {left : List String} {value : String}
    (words : String → List String)
    (hSpells : ∀ style, Spells (.lineEnd style) (words (styleName style)))
    (h : (do readWithin (← given.setLineEnd value) fuel left) = .ok (.render settings)) :
    ReadsItem given fuel (words value ++ left) settings := by
  obtain ⟨next, hTake, hRest⟩ := bind_eq_ok_iff.mp h
  obtain ⟨style, rfl⟩ := Given.exists_styleName_of_setLineEnd hTake
  exact ⟨.lineEnd style, _, next, left, hSpells style, rfl, hTake, hRest⟩

/-- The first argument ends the options, or it begins an item. -/
theorem readsItem_of_readWithin {fuel : Nat} {argument : String} {rest : List String}
    (h : readWithin given (fuel + 1) (argument :: rest) = .ok (.render settings)) :
    (argument = "--" ∧ readFiles given rest = .ok (.render settings)) ∨
      ReadsItem given fuel (argument :: rest) settings := by
  have hText := Argument.text_ofString argument
  rw [readWithin] at h
  split at h
  -- arguments that are wrong or ask for something else make no table, which leaves the options that
  -- set something, one case for each way in which they may look
  all_goals try cases h
  · next hLooks =>
      rw [hLooks] at hText
      exact .inl ⟨hText.symm, h⟩
  · next path hLooks =>
      obtain ⟨rfl, hPlain⟩ := Argument.ofString_eq_file_iff.mp hLooks
      exact .inr (readsItem_of_take (.file path) [path] (.file · hPlain) h)
  · next hLooks =>
      rw [hLooks] at hText
      subst hText
      exact .inr (readsItem_of_take .header ["--header"] (fun _ => .header) h)
  · next path hLooks =>
      rw [hLooks] at hText
      subst hText
      exact .inr (readsItem_of_take (.output path) ["--output=" ++ path]
        (.outputJoined (.inr rfl) ·) h)
  · next hLooks =>
      rw [hLooks] at hText
      subst hText
      obtain ⟨⟨path, left⟩, hValue, hNext⟩ := bind_eq_ok_iff.mp h
      obtain ⟨rfl, hPlain⟩ := separateValue_eq_ok_iff.mp hValue
      exact .inr (readsItem_of_take (.output path) ["--output", path]
        (.outputApart (.inr rfl) · hPlain) hNext)
  · next value hLooks =>
      rw [hLooks] at hText
      subst hText
      exact .inr (readsItem_of_lineEnd (fun value => ["--eol=" ++ value])
        (fun _ => .lineEndJoined) h)
  · next hLooks =>
      rw [hLooks] at hText
      subst hText
      obtain ⟨⟨value, left⟩, hValue, hNext⟩ := bind_eq_ok_iff.mp h
      obtain ⟨rfl, -⟩ := separateValue_eq_ok_iff.mp hValue
      exact .inr (readsItem_of_lineEnd (fun value => ["--eol", value])
        (fun _ => .lineEndApart) hNext)
  · next hLooks =>
      rw [hLooks] at hText
      subst hText
      obtain ⟨⟨path, left⟩, hValue, hNext⟩ := bind_eq_ok_iff.mp h
      obtain ⟨rfl, hPlain⟩ := separateValue_eq_ok_iff.mp hValue
      exact .inr (readsItem_of_take (.output path) ["-o", path]
        (.outputApart (.inl rfl) · hPlain) hNext)
  · next path hLooks =>
      obtain rfl : argument = "-o=" ++ String.ofList path := by
        rw [← hText, hLooks, ← String.toList_inj]
        simp [Argument.text]
      exact .inr (readsItem_of_take (.output (String.ofList path)) _
        (.outputJoined (.inl rfl) ·) h)
  · next path _ hNoMark hLooks =>
      obtain rfl : argument = "-o" ++ String.ofList path := by
        rw [← hText, hLooks, ← String.toList_inj]
        simp [Argument.text]
      have hPlain : (String.ofList path).toList.head? ≠ some '=' := by
        intro hHead
        rw [String.toList_ofList] at hHead
        obtain ⟨tail, hPath⟩ := List.head?_eq_some_iff.mp hHead
        exact hNoMark tail hPath
      exact .inr (readsItem_of_take (.output (String.ofList path)) _ (.outputAttached · hPlain) h)

/-- What is written as items is read as such. -/
theorem readWithin_of_spells {fuel : Nat} {words left : List String} (h : Spells item words) :
    readWithin given (fuel + 1) (words ++ left) =
      (do readWithin (← given.take item) fuel left) := by
  cases h with
  | file hSome hPlain =>
      rw [List.singleton_append, readWithin, Argument.ofString_eq_file_iff.mpr ⟨rfl, hPlain⟩]
      rfl
  | header => rfl
  | @outputApart option path hOption hSome hPlain =>
      have hValue : separateValue "--output" (path :: left) = .ok (path, left) :=
        separateValue_eq_ok_iff.mpr ⟨rfl, hPlain⟩
      rw [List.cons_append, List.singleton_append, readWithin]
      rcases hOption with rfl | rfl
      · have hLooks : Argument.ofString "-o" = .short 'o' [] := rfl
        simp only [hLooks, hValue]
        rfl
      · have hLooks : Argument.ofString "--output" = .long "output" none := rfl
        simp only [hLooks, hValue]
        rfl
  | @outputJoined option path hOption hSome =>
      rcases hOption with rfl | rfl
      · have hLooks : Argument.ofString ("-o=" ++ path) = .short 'o' ('=' :: path.toList) := by
          simp [Argument.ofString]
        rw [List.singleton_append, readWithin, hLooks]
        simp only [String.ofList_toList]
        rfl
      · have hLooks : Argument.ofString ("--output=" ++ path) = .long "output" (some path) := by
          simp [Argument.ofString]
        rw [List.singleton_append, readWithin, hLooks]
        rfl
  | @outputAttached path hSome hPlain =>
      have hLooks : Argument.ofString ("-o" ++ path) = .short 'o' path.toList := by
        simp [Argument.ofString]
      rw [List.singleton_append, readWithin, hLooks]
      -- the two ways in which `-o` may look that come before this one
      have hEmpty : path.toList ≠ [] := by simpa using hSome
      have hNoMark (tail : List Char) : path.toList ≠ '=' :: tail := by
        intro hPath
        exact hPlain (by rw [hPath, List.head?_cons])
      simp only [String.ofList_toList]
      rfl
  | @lineEndApart style => cases style <;> rfl
  | @lineEndJoined style => cases style <;> rfl

/-- Items are read one after another if none is said twice. -/
theorem readWithin_of_written {fuel : Nat} {arguments : List String} (h : Written arguments items)
    (hFuel : arguments.length ≤ fuel) (hAdds : Adds given items final) :
    readWithin given fuel arguments = .ok (.render final.settings) := by
  induction h generalizing given fuel with
  | done =>
      obtain rfl := adds_nil_iff.mp hAdds
      cases fuel <;> rfl
  | @step item words rest items hFirst _ ih =>
      obtain ⟨next, hTake, hRest⟩ := (adds_cons_iff hFirst.named).mp hAdds
      have hWords := List.length_pos_iff.mpr hFirst.words_ne_nil
      rw [List.length_append] at hFuel
      obtain ⟨fuel, rfl⟩ : ∃ less, fuel = less + 1 := ⟨fuel - 1, by omega⟩
      rw [readWithin_of_spells hFirst, hTake]
      exact ih (by omega) hRest
  | files hAll =>
      obtain ⟨fuel, rfl⟩ : ∃ less, fuel = less + 1 := ⟨fuel - 1, by simp at hFuel; omega⟩
      exact readFiles_eq_render_iff.mpr ⟨hAll, final, hAdds, rfl⟩

/-- All that was read was written as items. The induction is on the fuel, of which every argument
needs one at most, so that it lasts. -/
theorem exists_written_of_readWithin {fuel : Nat} {arguments : List String}
    (h : readWithin given fuel arguments = .ok (.render settings))
    (hFuel : arguments.length ≤ fuel) :
    ∃ items final, Written arguments items ∧ Adds given items final ∧
      final.settings = settings := by
  induction fuel generalizing given arguments with
  | zero =>
      obtain rfl : arguments = [] := List.length_eq_zero_iff.mp (Nat.le_zero.mp hFuel)
      obtain rfl := Request.render.inj (Except.ok.inj h)
      exact ⟨[], given, .done, adds_nil_iff.mpr rfl, rfl⟩
  | succ fuel ih =>
      cases arguments with
      | nil =>
          obtain rfl := Request.render.inj (Except.ok.inj h)
          exact ⟨[], given, .done, adds_nil_iff.mpr rfl, rfl⟩
      | cons argument rest =>
          rcases readsItem_of_readWithin h with ⟨rfl, hFiles⟩ | hItem
          · obtain ⟨hAll, final, hAdds, hSettings⟩ := readFiles_eq_render_iff.mp hFiles
            exact ⟨_, final, .files hAll, hAdds, hSettings⟩
          · obtain ⟨item, words, next, left, hSpells, hArguments, hTake, hRest⟩ := hItem
            have hWords := List.length_pos_iff.mpr hSpells.words_ne_nil
            have hLeft : left.length ≤ fuel := by
              have hLength := congrArg List.length hArguments
              rw [List.length_append] at hLength
              omega
            obtain ⟨items, final, hWritten, hAdds, hSettings⟩ := ih hRest hLeft
            exact ⟨item :: items, final, hArguments ▸ .step hSpells hWritten,
              (adds_cons_iff hSpells.named).mpr ⟨next, hTake, hAdds⟩, hSettings⟩

/-- The arguments ask for a table exactly if they are items, and the settings are what these say. -/
theorem ofArguments_eq_render_iff {arguments : List String} :
    Request.ofArguments arguments = .ok (.render settings) ↔ settings.WrittenIn arguments := by
  constructor
  · intro h
    exact exists_written_of_readWithin h (Nat.le_refl _)
  · rintro ⟨items, final, hWritten, hAdds, rfl⟩
    exact readWithin_of_written hWritten (Nat.le_refl _) hAdds

end Tabular.Command
