/-
Looking up an extension by its first occurrence.

A worker tells its formats as one text, a list of extensions each of which begins with a dot.  Whoever
looks for an extension there and checks the first occurrence only finds it just if that occurrence is
a whole entry, so an extension has to stand before the longer ones that begin with it.

* **`Listed`**, **`FoundFirst`** — that an extension is an entry of a list, and that its first
  occurrence is one;
* **`row`** — a list by its entries; **`foundFirst_row_iff`**: the first occurrence is the first entry
  that begins with the extension;
* **`searchable_pictureFormats_iff`** — the formats of a worker can be searched just if those of its
  provider can, and none of these is longer than one of the worker's own that the provider lacks.
-/
import Thumbnailer.Rendering
import Thumbnailer.Renditions

namespace Thumbnailer

namespace Extension

/-- An extension: a dot, and no other behind it. -/
def IsExtension (e : List Char) : Prop := ∃ name, '.' ∉ name ∧ e = '.' :: name

/-- Where an entry of a list is over: at the end, or where the next one begins. -/
def Over (rest : List Char) : Prop := rest = [] ∨ rest.head? = some '.'

/-- `e` is an entry of a list. -/
def Listed (list e : List Char) : Prop :=
  IsExtension e ∧ ∃ before rest, list = before ++ e ++ rest ∧ Over rest

/-- The first occurrence of `e` in a list is a whole entry. -/
def FoundFirst (list e : List Char) : Prop :=
  ∃ before rest, list = before ++ e ++ rest ∧ Over rest ∧
    ∀ before' rest', list = before' ++ e ++ rest' → before.length ≤ before'.length

/-- Each entry of a list is found by its first occurrence. -/
def Searchable (list : List Char) : Prop := ∀ e, Listed list e → FoundFirst list e

/-- The list of some entries, which are given without their dots. -/
def row (names : List (List Char)) : List Char := names.flatMap ('.' :: ·)

/-- Names without dots. -/
def Plain (names : List (List Char)) : Prop := ∀ name ∈ names, '.' ∉ name

variable {names extra left right : List (List Char)} {name before rest : List Char}

/-! ### Entries and occurrences -/

@[simp] theorem row_nil : row [] = [] := rfl

@[simp] theorem row_cons (name : List Char) (names : List (List Char)) :
    row (name :: names) = '.' :: (name ++ row names) := rfl

@[simp] theorem row_append (left right : List (List Char)) :
    row (left ++ right) = row left ++ row right := List.flatMap_append

theorem over_row (names : List (List Char)) : Over (row names) := by
  cases names with
  | nil => exact .inl rfl
  | cons name names => exact .inr rfl

/-- What begins with a dot is the list of its entries. -/
theorem exists_row {list : List Char} (h : list.head? = some '.') :
    ∃ names, Plain names ∧ list = row names := by
  -- a text is what stands before its first dot, and a list
  have hsplit : ∀ text : List Char, ∃ name names,
      Plain (name :: names) ∧ text = name ++ row names := by
    intro text
    induction text with
    | nil => exact ⟨[], [], by simp [Plain], rfl⟩
    | cons c text ih =>
      obtain ⟨name, names, hplain, rfl⟩ := ih
      by_cases hc : c = '.'
      · subst hc
        refine ⟨[], name :: names, ?_, by simp⟩
        intro n hn
        obtain rfl | hn := List.mem_cons.mp hn
        · exact List.not_mem_nil
        · exact hplain n hn
      · refine ⟨c :: name, names, ?_, rfl⟩
        intro n hn
        obtain rfl | hn := List.mem_cons.mp hn
        · rw [List.mem_cons, not_or]
          exact ⟨Ne.symm hc, hplain name List.mem_cons_self⟩
        · exact hplain n (List.mem_cons_of_mem _ hn)
  cases list with
  | nil => cases h
  | cons c text =>
    obtain rfl := Option.some.inj h
    obtain ⟨name, names, hplain, rfl⟩ := hsplit text
    exact ⟨name :: names, hplain, rfl⟩

/-- An extension occurs in a list only at the beginning of an entry. -/
theorem exists_of_row_eq (hnames : Plain names) (hname : '.' ∉ name)
    (h : row names = before ++ ('.' :: name) ++ rest) :
    ∃ left tail right, names = left ++ (name ++ tail) :: right ∧ before = row left ∧
      rest = tail ++ row right := by
  induction names generalizing before with
  | nil => simp at h
  | cons x names ih =>
    have hx : '.' ∉ x := hnames x List.mem_cons_self
    have hrest : Plain names := fun n hn => hnames n (List.mem_cons_of_mem _ hn)
    cases before with
    | nil =>
      -- it begins where the first entry does, which does not end before it
      simp only [row_cons, List.nil_append, List.cons_append, List.cons.injEq, true_and] at h
      obtain ⟨more, hmore, htail⟩ | ⟨tail, rfl, rfl⟩ := List.append_eq_append_iff.mp h
      · cases more with
        | nil =>
          refine ⟨[], [], names, ?_, rfl, ?_⟩
          · simp [hmore]
          · simpa using htail.symm
        | cons c more =>
          have hdot : c = '.' := by
            cases names with
            | nil => simp at htail
            | cons y names => simpa using (congrArg List.head? htail).symm
          exact absurd (by rw [hmore, hdot]; simp) hname
      · exact ⟨[], tail, names, rfl, rfl, rfl⟩
    | cons c before =>
      simp only [row_cons, List.cons_append, List.cons.injEq] at h
      obtain ⟨rfl, h⟩ := h
      rw [List.append_assoc] at h
      -- it begins behind the first entry
      have hbehind : ∃ more, before = x ++ more ∧ row names = more ++ ('.' :: name) ++ rest := by
        obtain ⟨more, hmore, htail⟩ | ⟨more, hmore, htail⟩ := List.append_eq_append_iff.mp h
        · exact ⟨more, hmore, by rw [htail, List.append_assoc]⟩
        · cases more with
          | nil => exact ⟨[], by simpa using hmore.symm, by simpa using htail.symm⟩
          | cons d more =>
            have hdot : d = '.' := by simpa using (congrArg List.head? htail).symm
            exact absurd (by rw [hmore, hdot]; simp) hx
      obtain ⟨more, rfl, hmore⟩ := hbehind
      obtain ⟨left, tail, right, rfl, rfl, rfl⟩ := ih hrest hmore
      exact ⟨x :: left, tail, right, rfl, rfl, rfl⟩

/-- An occurrence that is over with the extension is a whole entry. -/
theorem eq_nil_of_over {tail : List Char} (h : Over (tail ++ row right)) (htail : '.' ∉ tail) :
    tail = [] := by
  cases tail with
  | nil => rfl
  | cons c tail =>
    obtain h | h := h
    · cases h
    · obtain rfl := Option.some.inj h
      exact absurd List.mem_cons_self htail

theorem listed_row_iff (hnames : Plain names) {e : List Char} :
    Listed (row names) e ↔ ∃ name ∈ names, e = '.' :: name := by
  constructor
  · rintro ⟨⟨name, hname, rfl⟩, before, rest, h, hover⟩
    obtain ⟨left, tail, right, rfl, -, rfl⟩ := exists_of_row_eq hnames hname h
    have hmem : name ++ tail ∈ left ++ (name ++ tail) :: right := by simp
    have htail : '.' ∉ tail := fun h => hnames _ hmem (List.mem_append_right _ h)
    obtain rfl := eq_nil_of_over hover htail
    exact ⟨name, by simp, rfl⟩
  · rintro ⟨name, hname, rfl⟩
    obtain ⟨left, right, rfl⟩ := List.append_of_mem hname
    exact ⟨⟨name, hnames name hname, rfl⟩, row left, row right, by simp, over_row right⟩

/-! ### The first occurrence -/

/-- The first occurrence of an extension is the first entry that begins with it. -/
theorem foundFirst_row_iff (hnames : Plain names) (hname : '.' ∉ name) :
    FoundFirst (row names) ('.' :: name) ↔ names.find? (name.isPrefixOf ·) = some name := by
  rw [List.find?_eq_some_iff_append]
  constructor
  · rintro ⟨before, rest, h, hover, hfirst⟩
    obtain ⟨left, tail, right, rfl, rfl, rfl⟩ := exists_of_row_eq hnames hname h
    have htail : '.' ∉ tail := fun h => hnames (name ++ tail) (by simp) (List.mem_append_right _ h)
    obtain rfl := eq_nil_of_over hover htail
    rw [List.append_nil] at hfirst ⊢
    refine ⟨by simp, left, right, rfl, fun x hx => ?_⟩
    -- an entry before it that begins with the extension would be an occurrence
    rw [Bool.not_eq_true', Bool.eq_false_iff]
    intro hbegins
    obtain ⟨more, rfl⟩ := List.isPrefixOf_iff_prefix.mp hbegins
    obtain ⟨left, middle, rfl⟩ := List.append_of_mem hx
    have hle := hfirst (row left) (more ++ row (middle ++ name :: right)) (by simp)
    simp only [row_append, row_cons, List.length_append, List.length_cons] at hle
    omega
  · rintro ⟨-, left, right, rfl, hleft⟩
    refine ⟨row left, row right, by simp, over_row right, fun before rest h => ?_⟩
    obtain ⟨left', tail, right', hsplit, rfl, rfl⟩ := exists_of_row_eq hnames hname h
    obtain ⟨more, rfl, -⟩ | ⟨more, hmore, htail⟩ := List.append_eq_append_iff.mp hsplit
    · simp
    · cases more with
      | nil => simp [hmore]
      | cons x more =>
        -- the occurrence would be in an entry before it
        obtain rfl : name ++ tail = x := by simpa using congrArg List.head? htail
        have hnot := hleft (name ++ tail) (by rw [hmore]; simp)
        have hbegins := List.isPrefixOf_iff_prefix.mpr (List.prefix_append name tail)
        rw [hbegins] at hnot
        cases hnot

theorem searchable_row_iff (hnames : Plain names) :
    Searchable (row names) ↔ ∀ name ∈ names, names.find? (name.isPrefixOf ·) = some name := by
  constructor
  · intro h name hname
    exact (foundFirst_row_iff hnames (hnames name hname)).mp
      (h _ ((listed_row_iff hnames).mpr ⟨name, hname, rfl⟩))
  · intro h e he
    obtain ⟨name, hname, rfl⟩ := (listed_row_iff hnames).mp he
    exact (foundFirst_row_iff hnames (hnames name hname)).mpr (h name hname)

/-! ### More entries behind a list -/

/-- If a list that can be searched is appended to another, the whole can be searched just if the other
can, and lists each appended entry with which one of its own begins. -/
theorem searchable_append_iff (hnames : Plain names) (hextra : Plain extra)
    (hs : Searchable (row extra)) :
    Searchable (row names ++ row extra) ↔ Searchable (row names) ∧
      ∀ e, Listed (row extra) e → (∃ longer, Listed (row names) longer ∧ e <+: longer) →
        Listed (row names) e := by
  have hall : Plain (names ++ extra) := fun n hn =>
    (List.mem_append.mp hn).elim (hnames n) (hextra n)
  rw [searchable_row_iff hextra] at hs
  rw [← row_append, searchable_row_iff hall, searchable_row_iff hnames]
  constructor
  · intro h
    -- the first entry with some beginning is among the old ones if there is one
    have hfound : ∀ name ∈ names ++ extra, ∀ longer ∈ names, name <+: longer →
        names.find? (name.isPrefixOf ·) = some name := by
      intro name hname longer hlonger hbegins
      have hsome : (names.find? (name.isPrefixOf ·)).isSome :=
        List.find?_isSome.mpr ⟨longer, hlonger, List.isPrefixOf_iff_prefix.mpr hbegins⟩
      obtain ⟨first, hfirst⟩ := Option.isSome_iff_exists.mp hsome
      have hwhole := h name hname
      rw [List.find?_append, hfirst, Option.some_or] at hwhole
      rw [hfirst, hwhole]
    refine ⟨fun name hname => ?_, ?_⟩
    · exact hfound name (List.mem_append_left _ hname) name hname List.prefix_rfl
    · rintro e he ⟨longer, hlonger, hbegins⟩
      obtain ⟨name, hname, rfl⟩ := (listed_row_iff hextra).mp he
      obtain ⟨other, hother, rfl⟩ := (listed_row_iff hnames).mp hlonger
      have hfirst := hfound name (List.mem_append_right _ hname) other hother
        (List.cons_prefix_cons.mp hbegins).2
      exact (listed_row_iff hnames).mpr ⟨name, List.mem_of_find?_eq_some hfirst, rfl⟩
  · rintro ⟨h, hlists⟩ name hname
    rw [List.find?_append]
    by_cases hold : name ∈ names
    · rw [h name hold, Option.some_or]
    · have hnew : name ∈ extra := (List.mem_append.mp hname).resolve_left hold
      have hnone : names.find? (name.isPrefixOf ·) = none := by
        rw [List.find?_eq_none]
        intro other hother hbegins
        obtain ⟨same, hsame, heq⟩ := (listed_row_iff hnames).mp
          (hlists ('.' :: name) ((listed_row_iff hextra).mpr ⟨name, hnew, rfl⟩)
            ⟨'.' :: other, (listed_row_iff hnames).mpr ⟨other, hother, rfl⟩,
              List.cons_prefix_cons.mpr ⟨rfl, List.isPrefixOf_iff_prefix.mp hbegins⟩⟩)
        obtain rfl := List.tail_eq_of_cons_eq heq
        exact hold hsame
      rw [hnone, Option.none_or, hs name hnew]

end Extension

namespace Provider

open Extension

/-- The entries that a worker adds to the formats of its provider, without their dots. -/
def extraNames : List (List Char) := (extraFormats.toList.splitOn '.').tail

theorem toList_extraFormats : extraFormats.toList = row extraNames := by decide

theorem plain_extraNames : Plain extraNames := by
  unfold Plain
  decide

theorem searchable_extraNames : Searchable (row extraNames) := by
  rw [searchable_row_iff plain_extraNames]
  decide

theorem toList_pictureFormats {p : Provider} {list : String} (hlist : p.pictures? = some list)
    (hdot : list.toList.head? = some '.') :
    p.pictureFormats.toList = list.toList ++ extraFormats.toList := by
  have hne : list.isEmpty = false := by
    rw [Bool.eq_false_iff]
    intro hempty
    rw [String.isEmpty_iff.mp hempty] at hdot
    cases hdot
  rw [pictureFormats, hlist]
  simp only [hne, Bool.false_eq_true, if_false, String.toList_append]

/-- The formats that the worker with the picture provider tells can be searched. -/
theorem searchable_pictureProvider (settings : PictureSettings)
    (read : Path → Except IoError Source) :
    Searchable (pictureProvider settings read).pictureFormats.toList := by
  have hrow : (pictureExtensions ++ extraFormats).toList
      = row ((pictureExtensions ++ extraFormats).toList.splitOn '.').tail := by decide
  have hplain : Plain ((pictureExtensions ++ extraFormats).toList.splitOn '.').tail := by
    unfold Plain
    decide
  change Searchable (pictureExtensions ++ extraFormats).toList
  rw [hrow, searchable_row_iff hplain]
  decide

/-- **When the formats of a worker can be searched.**  Let the provider list extensions.  In the list
of the worker each extension, the provider's and the worker's own, is found by its first occurrence
just if that holds in the list of the provider, and the provider itself lists each of the worker's
own extensions with which one of the provider's begins. -/
theorem searchable_pictureFormats_iff (p : Provider) {list : String}
    (hlist : p.pictures? = some list) (hdot : list.toList.head? = some '.') :
    Searchable p.pictureFormats.toList ↔ Searchable list.toList ∧
      ∀ e, Listed extraFormats.toList e → (∃ longer, Listed list.toList longer ∧ e <+: longer) →
        Listed list.toList e := by
  obtain ⟨names, hnames, hrow⟩ := exists_row hdot
  rw [toList_pictureFormats hlist hdot, toList_extraFormats, hrow]
  exact searchable_append_iff hnames plain_extraNames searchable_extraNames

/-- A provider of `.tiff` files lists what can be searched, and its worker does not: there the first
`.tif` is the beginning of `.tiff`. -/
theorem not_searchable_pictureFormats_tiff :
    Searchable ".tiff".toList ∧
      ¬ Searchable (pictureFormats ⟨fun _ _ => .images [], some ".tiff", none⟩).toList := by
  have htiff : ".tiff".toList = row [['t', 'i', 'f', 'f']] := by decide
  have hplain : Plain [['t', 'i', 'f', 'f']] := by
    unfold Plain
    decide
  constructor
  · rw [htiff, searchable_row_iff hplain]
    decide
  · rw [searchable_pictureFormats_iff _ rfl (by decide), not_and]
    intro _ hlists
    rw [toList_extraFormats, htiff] at hlists
    have htif : Listed (row [['t', 'i', 'f', 'f']]) ['.', 't', 'i', 'f'] := by
      refine hlists _ ((listed_row_iff plain_extraNames).mpr ⟨['t', 'i', 'f'], ?_, rfl⟩)
        ⟨['.', 't', 'i', 'f', 'f'], (listed_row_iff hplain).mpr ⟨_, List.mem_cons_self, rfl⟩, ?_⟩
      · decide
      · decide
    obtain ⟨name, hname, heq⟩ := (listed_row_iff hplain).mp htif
    obtain rfl := List.mem_singleton.mp hname
    cases heq

end Provider

end Thumbnailer
