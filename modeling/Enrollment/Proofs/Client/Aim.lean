import Enrollment.Proofs.Client.Queries
import Enrollment.Proofs.Url.Blanks
/-!
# Where requests go

The URL of a coordinator is checked as a URL, but a request is made by putting the path of a resource
behind its text. That reads as the resource of the URL only if nothing in the text changes its meaning
when more follows: a question mark or a number sign, blanks at the end, and what is left at the end of
a path that leads to an empty name.

Results:
 1. `aims_iff`: which texts resources can be put behind, for any resource with plain names.
 2. `IsPlainOrigin.takesResources`: a host and a port with nothing behind them are such a text.
 3. `requests_aim_iff`: the requests to a coordinator go to its resources exactly if its URL is such a
    text.
-/

namespace Enrollment.Client

open Url (ArePlain namesText withoutSlashes)

/-- A URL is that of a resource of another one: it is on the same host, its path stands behind that of
the other without the slashes at the end, and no query follows. -/
structure Aims (base : Url) (resource : List Char) (u : Url) : Prop where
  scheme : u.scheme = base.scheme
  host : u.authority.map Url.Authority.host = base.authority.map Url.Authority.host
  port : u.authority.map Url.Authority.port = base.authority.map Url.Authority.port
  path : u.path.text = withoutSlashes base.path.text ++ resource
  query : u.query = none

/-- The names that the path of a URL leads to when more follows. -/
def namesOf (s : String) : List (List Char) :=
  match Url.scheme? (Url.opening (withoutSlashes s.toList)) with
  | some (_, rest) => Url.reached (Url.pathPart rest)
  | none => []

/-- A text of a URL that resources can be put behind. -/
structure TakesResources (s : String) : Prop where
  unmarked : '?' ∉ s.toList ∧ '#' ∉ s.toList
  closed : ∀ c ∈ s.toList.rtakeWhile Url.isEdge, Url.isShown c = false
  named : (namesOf s).getLast? ≠ some []

instance (s : String) : Decidable (TakesResources s) :=
  decidable_of_iff
    (('?' ∉ s.toList ∧ '#' ∉ s.toList) ∧
      (s.toList.rtakeWhile Url.isEdge).any Url.isShown = false ∧
      (namesOf s).getLast? ≠ some [])
    ⟨fun h => ⟨h.1, by simpa using h.2.1, h.2.2⟩,
      fun h => ⟨h.unmarked, by simpa using h.closed, h.named⟩⟩

/-! ## What is read of the text of a URL -/

/-- The text of a URL of the web, cut where resources are put. -/
structure IsCut (s : String) (scheme rest blank : List Char) (k : Nat) : Prop where
  alone : Url.scheme? (Url.cleaned s.toList) = some (scheme, rest ++ List.replicate k '/')
  /-- The text with more behind it: blanks at the end belong to it, and the slashes are left out. -/
  opening : Url.scheme? (Url.opening (withoutSlashes s.toList)) = some (scheme, rest ++ blank)
  isBlank : Url.IsBlank blank
  either : k = 0 ∨ blank = []
  blank_iff : blank = [] ↔ ∀ c ∈ s.toList.rtakeWhile Url.isEdge, Url.isShown c = false
  mem_iff : ∀ mark ∈ ['?', '#'], mark ∈ s.toList ↔ mark ∈ rest

theorem eq_withoutSlashes_append (s : List Char) :
    ∃ k, s = withoutSlashes s ++ List.replicate k '/' := by
  refine ⟨(s.rtakeWhile (· == '/')).length, ?_⟩
  have hall : s.rtakeWhile (· == '/') = List.replicate (s.rtakeWhile (· == '/')).length '/' := by
    refine List.eq_replicate_of_mem fun c hc => ?_
    have hslash : (c == '/') = true := List.mem_rtakeWhile_imp (p := (· == '/')) hc
    exact eq_of_beq hslash
  rw [← hall]
  exact List.rdropWhile_append_rtakeWhile.symm

theorem mem_opening {mark : Char} (hedge : Url.isEdge mark = false) (s : List Char) :
    mark ∈ Url.opening s ↔ mark ∈ s := by
  have hdrop : mark ∈ s.dropWhile Url.isEdge ↔ mark ∈ s := by
    constructor
    · exact fun h => (List.dropWhile_suffix _).subset h
    · intro h
      rw [← List.takeWhile_append_dropWhile (p := Url.isEdge) (l := s)] at h
      refine (List.mem_append.1 h).resolve_left fun hin => ?_
      rw [List.mem_takeWhile_imp hin] at hedge
      cases hedge
  rw [Url.opening, List.mem_filter, hdrop]
  exact and_iff_left (Url.isShown_of_not_isEdge hedge)

/-- A blank does not belong to a scheme. -/
theorem not_inScheme_of_blank {c : Char} (h : c.toNat ≤ 0x20) :
    Url.inScheme c = false ∧ c ≠ ':' := by
  have hall : ∀ n < 0x21, Url.inScheme (Char.ofNat n) = false ∧ Char.ofNat n ≠ ':' := by decide
  have hc := hall c.toNat (by omega)
  rw [Char.ofNat_toNat] at hc
  exact hc

theorem eq_or_eq_of_mark {mark : Char} (h : mark ∈ ['?', '#']) : mark = '?' ∨ mark = '#' := by
  simpa using h

theorem isCut {s : String} {u : Url} (hu : Url.parse s = .ok u) :
    ∃ rest blank k, IsCut s u.scheme rest blank k := by
  obtain ⟨r, hr⟩ := Url.parse_scheme hu
  obtain ⟨k, hk⟩ := eq_withoutSlashes_append s.toList
  -- Marks are neither slashes nor blanks, nor in a scheme.
  have hmem : ∀ rest blank, Url.scheme? (Url.opening (withoutSlashes s.toList)) =
      some (u.scheme, rest ++ blank) → Url.IsBlank blank →
      ∀ mark ∈ ['?', '#'], mark ∈ s.toList ↔ mark ∈ rest := by
    intro rest blank hopening hblank mark hmark
    have hmark' : mark ≠ '/' ∧ Url.isEdge mark = false ∧ Url.inScheme mark = false ∧ mark ≠ ':' := by
      rcases eq_or_eq_of_mark hmark with rfl | rfl <;> decide
    have hslashes : mark ∉ List.replicate k '/' :=
      fun hin => hmark'.1 (List.eq_of_mem_replicate hin)
    have hblanks : mark ∉ blank := by
      intro hin
      have hedge : Url.isEdge mark = true := decide_eq_true (hblank mark hin)
      rw [hmark'.2.1] at hedge
      cases hedge
    rw [hk, List.mem_append, or_iff_left hslashes, ← mem_opening hmark'.2.1,
      Url.mem_rest hopening hmark'.2.2.1 hmark'.2.2.2, List.mem_append, or_iff_left hblanks]
  cases k with
  | zero =>
    have hk : withoutSlashes s.toList = s.toList := by
      rw [List.replicate_zero, List.append_nil] at hk
      exact hk.symm
    have hblank := Url.isBlank_ending s.toList
    have hopening : Url.scheme? (Url.opening (withoutSlashes s.toList)) =
        some (u.scheme, r ++ Url.ending s.toList) := by
      rw [hk, Url.opening_eq, Url.scheme?_append _ fun c hc =>
        not_inScheme_of_blank (hblank c (List.mem_of_head? hc)), hr]
      rfl
    have hne : Url.cleaned s.toList ≠ [] := by
      intro hnil
      rw [hnil] at hr
      cases hr
    refine ⟨r, Url.ending s.toList, 0, ?_, hopening, hblank, Or.inl rfl,
      Url.ending_eq_nil_iff hne, hmem r _ hopening hblank⟩
    rw [List.replicate_zero, List.append_nil]
    exact hr
  | succ k =>
    have hcleaned : Url.cleaned s.toList =
        Url.opening (withoutSlashes s.toList) ++ List.replicate (k + 1) '/' := by
      rw [hk, Url.cleaned_append, ← hk]
      · intro c hc
        rw [List.eq_of_mem_replicate hc]
        rfl
      · exact List.cons_ne_nil _ _
    have hslash : ∀ c ∈ (List.replicate (k + 1) '/').head?, Url.inScheme c = false ∧ c ≠ ':' := by
      intro c hc
      rw [List.eq_of_mem_replicate (List.mem_of_head? hc)]
      decide
    have hr' := hr
    rw [hcleaned, Url.scheme?_append _ hslash] at hr'
    obtain ⟨⟨scheme, rest⟩, hopening, heq⟩ := Option.map_eq_some_iff.1 hr'
    obtain ⟨rfl, rfl⟩ := Prod.mk.inj heq
    have hopening : Url.scheme? (Url.opening (withoutSlashes s.toList)) =
        some (u.scheme, rest ++ []) := by
      rw [List.append_nil]
      exact hopening
    have hblank : Url.IsBlank [] := fun c hc => by cases hc
    have hclosed : s.toList.rtakeWhile Url.isEdge = [] := by
      rw [hk, List.replicate_succ', ← List.append_assoc]
      exact List.rtakeWhile_concat_neg _ _ _ (by decide)
    refine ⟨rest, [], k + 1, hr, hopening, hblank, Or.inr rfl, ?_, hmem rest _ hopening hblank⟩
    rw [hclosed]
    exact iff_of_true rfl fun c hc => by cases hc

/-! ## Resources behind the text of a URL -/

section

variable {s g : String} {u v : Url} {rest blank : List Char} {k : Nat} {names : List (List Char)}

/-- No plain name and no slash is dropped at the end of a text. -/
theorem not_isEdge_namesText (hnames : ArePlain names) :
    ∀ c ∈ namesText names, Url.isEdge c = false := by
  intro c hc
  obtain ⟨name, hname, hc⟩ := List.mem_flatMap.1 hc
  rcases List.mem_cons.1 hc with rfl | hc
  · rfl
  · have := Url.isPlain_range ((hnames name hname).2 c hc)
    exact decide_eq_false (by omega)

theorem namesText_ne_nil (hne : names ≠ []) : namesText names ≠ [] := by
  cases names with
  | nil => exact absurd rfl hne
  | cons name names => exact List.cons_ne_nil _ _

/-- The text of a resource, read as a URL. -/
theorem scheme?_resource (hcut : IsCut s u.scheme rest blank k)
    (hg : g.toList = withoutSlashes s.toList ++ namesText names) (hnames : ArePlain names)
    (hne : names ≠ []) :
    Url.scheme? (Url.cleaned g.toList) = some (u.scheme, rest ++ (blank ++ namesText names)) := by
  have hslash : ∀ c ∈ (namesText names).head?, Url.inScheme c = false ∧ c ≠ ':' := by
    intro c hc
    cases names with
    | nil => cases hc
    | cons name names =>
      cases hc
      decide
  rw [hg, Url.cleaned_append _ (not_isEdge_namesText hnames) (namesText_ne_nil hne),
    Url.scheme?_append _ hslash, hcut.opening, ← List.append_assoc]
  rfl

/-- A path is not its own text with more behind it. -/
theorem ne_withoutSlashes_append (hnames : ArePlain names) (hne : names ≠ []) (t : List Char) :
    t ≠ withoutSlashes t ++ namesText names := by
  intro h
  have hlast : withoutSlashes t = t := by
    refine List.rdropWhile_eq_self_iff.2 fun hl hslash => ?_
    obtain ⟨front, name, rfl⟩ := (List.eq_nil_or_concat' names).resolve_left hne
    obtain ⟨hname, hplain⟩ := hnames name List.mem_concat_self
    obtain ⟨word, c, rfl⟩ := (List.eq_nil_or_concat' name).resolve_left hname
    have hc : t.getLast? = some c := by
      rw [h, Url.namesText_append, Url.namesText_singleton, ← List.cons_append,
        ← List.append_assoc, ← List.append_assoc, List.getLast?_concat]
    rw [List.getLast?_eq_some_getLast hl] at hc
    rw [Option.some.inj hc] at hslash
    exact Url.ne_of_isPlain (hplain c List.mem_concat_self) (by decide) (eq_of_beq hslash)
  rw [hlast] at h
  have hlength := congrArg List.length h
  rw [List.length_append] at hlength
  exact namesText_ne_nil hne (List.length_eq_zero_iff.1 (by omega))

/-- A resource has no marks in it, nor have blanks. -/
theorem mark_notMem (hblank : Url.IsBlank blank) (hnames : ArePlain names) {mark : Char}
    (hmark : mark ∈ ['?', '#']) (hrest : mark ∉ rest) :
    mark ∉ rest ++ (blank ++ namesText names) := by
  have hmark' : ¬mark.toNat ≤ 0x20 ∧ mark ≠ '/' ∧ Url.isPlain mark = false := by
    rcases eq_or_eq_of_mark hmark with rfl | rfl <;> decide
  intro hin
  rcases List.mem_append.1 hin with hin | hin
  · exact hrest hin
  · rcases List.mem_append.1 hin with hin | hin
    · exact hmark'.1 (hblank mark hin)
    · obtain ⟨name, hname, hin⟩ := List.mem_flatMap.1 hin
      rcases List.mem_cons.1 hin with hin | hin
      · exact hmark'.2.1 hin
      · exact Url.ne_of_isPlain ((hnames name hname).2 mark hin) hmark'.2.2 rfl

/-- A resource starts with a slash. -/
theorem startsWithSlash_namesText (names : List (List Char)) :
    Url.StartsWithSlash (namesText names) := by
  intro c hc
  cases names with
  | nil => cases hc
  | cons name names =>
    cases hc
    rfl

theorem startsWithSlash_replicate (k : Nat) : Url.StartsWithSlash (List.replicate k '/') := by
  intro c hc
  rw [List.eq_of_mem_replicate (List.mem_of_head? hc)]
  rfl

/-- Blanks in front of a resource belong to what is in front of them. -/
theorem takeWhile_resource (hblank : Url.IsBlank blank) (names : List (List Char)) :
    (blank ++ namesText names).takeWhile Url.isInside = blank := by
  have hinside : ∀ c ∈ blank, Url.isInside c = true := by
    intro c hc
    have hall : ∀ n < 0x21, Url.isInside (Char.ofNat n) = true := by decide
    have hc := hall c.toNat (by have := hblank c hc; omega)
    rw [Char.ofNat_toNat] at hc
    exact hc
  have hnone : (namesText names).takeWhile Url.isInside = [] := by
    cases names with
    | nil => rfl
    | cons name names => rfl
  rw [List.takeWhile_append_of_pos hinside, hnone, List.append_nil]

/-- Behind a question mark or a number sign, a resource is not asked for. -/
theorem not_aims_of_mark (hcut : IsCut s u.scheme rest blank k) (hu : Url.parse s = .ok u)
    (hg : g.toList = withoutSlashes s.toList ++ namesText names) (hnames : ArePlain names)
    (hne : names ≠ []) (hmark : '?' ∈ rest ∨ '#' ∈ rest) (hv : Url.parse g = .ok v) :
    ¬Aims u (namesText names) v := by
  intro haims
  have hscheme := scheme?_resource hcut hg hnames hne
  by_cases hfragment : '#' ∈ rest
  · have hpath := Url.path_eq_of_fragment hcut.alone hscheme hfragment hu hv
    have htext := haims.path
    rw [hpath] at htext
    exact ne_withoutSlashes_append hnames hne _ htext
  · have hquery := hmark.resolve_right hfragment
    refine Url.query_of_mem hscheme (List.mem_append_left _ hquery) ?_ hv haims.query
    exact mark_notMem hcut.isBlank hnames (by decide) hfragment

/-- Blanks in front of a resource belong to the host, which is none with them, or to the path. -/
theorem not_aims_of_blank (hcut : IsCut s u.scheme rest blank 0) (hu : Url.parse s = .ok u)
    (hweb : u.isWeb = true) (hg : g.toList = withoutSlashes s.toList ++ namesText names)
    (hnames : ArePlain names) (hne : names ≠ []) (hquery : '?' ∉ rest) (hfragment : '#' ∉ rest)
    (hblank : blank ≠ []) (hv : Url.parse g = .ok v) : ¬Aims u (namesText names) v := by
  have hweb := (Url.isWeb_iff u).1 hweb
  have halone := hcut.alone
  rw [List.replicate_zero, List.append_nil] at halone
  obtain ⟨a, hreads, hu⟩ := (Url.parse_web halone hweb hquery hfragment).1 hu
  obtain ⟨a', hreads', hv⟩ := (Url.parse_web (scheme?_resource hcut hg hnames hne) hweb
    (mark_notMem hcut.isBlank hnames (by decide) hquery)
    (mark_notMem hcut.isBlank hnames (by decide) hfragment)).1 hv
  have hhost := hreads.ne_nil
  by_cases hpath : Url.pathPart rest = []
  · rw [Url.hostPart_append hhost, if_pos hpath, takeWhile_resource hcut.isBlank] at hreads'
    exact absurd hreads' (Url.not_readsAs_blank hreads hcut.isBlank hblank a' [])
  · intro haims
    have htext := haims.path
    rw [hv, hu, Url.pathPart_append hhost, if_neg hpath, ← List.append_assoc] at htext
    exact Url.text_blank_ne (Url.startsWithSlash_pathPart rest) hpath hcut.isBlank hblank hnames hne
      htext

/-- Without marks and blanks, a resource is the URL with another path. -/
theorem resource_of_no_mark (hcut : IsCut s u.scheme rest [] k) (hu : Url.parse s = .ok u)
    (hweb : u.isWeb = true) (hg : g.toList = withoutSlashes s.toList ++ namesText names)
    (hnames : ArePlain names) (hne : names ≠ []) (hquery : '?' ∉ rest) (hfragment : '#' ∉ rest) :
    u.path = Url.segmentPath true (Url.pathPart rest ++ List.replicate k '/') ∧
      Url.parse g = .ok ⟨u.scheme, u.authority,
        Url.segmentPath true (Url.pathPart rest ++ namesText names), none, none⟩ := by
  have hweb := (Url.isWeb_iff u).1 hweb
  have hnot : ∀ mark ∈ ['?', '#'], mark ∉ rest → mark ∉ rest ++ List.replicate k '/' := by
    intro mark hmark hrest hin
    have hin := List.eq_of_mem_replicate ((List.mem_append.1 hin).resolve_left hrest)
    rw [hin] at hmark
    revert hmark
    decide
  obtain ⟨a, hreads, hu⟩ := (Url.parse_web hcut.alone hweb (hnot _ (by decide) hquery)
    (hnot _ (by decide) hfragment)).1 hu
  have hhost := Url.hostPart_ne_nil hreads.ne_nil
  obtain ⟨hhostPart, hpathPart⟩ := Url.parts_append_slash hhost (startsWithSlash_replicate k)
  rw [hhostPart] at hreads
  rw [hpathPart] at hu
  have hscheme := scheme?_resource hcut hg hnames hne
  rw [List.nil_append] at hscheme
  obtain ⟨hhostPart', hpathPart'⟩ :=
    Url.parts_append_slash hhost (startsWithSlash_namesText names)
  have hbehind : ∀ mark ∈ ['?', '#'], mark ∉ rest → mark ∉ rest ++ namesText names := by
    intro mark hmark hrest
    have hnone := mark_notMem hcut.isBlank hnames hmark hrest
    exact hnone
  have hparse := fun v => Url.parse_web (u := v) hscheme hweb (hbehind _ (by decide) hquery)
    (hbehind _ (by decide) hfragment)
  rw [hhostPart', hpathPart'] at hparse
  have hauthority : u.authority = some a := by rw [hu]
  refine ⟨by rw [hu], (hparse _).2 ⟨a, hreads, ?_⟩⟩
  rw [hauthority]

/-- Without marks and blanks, a resource is asked for exactly if the path leads to no empty name. -/
theorem aims_iff_named (hcut : IsCut s u.scheme rest [] k) (hu : Url.parse s = .ok u)
    (hweb : u.isWeb = true) (hg : g.toList = withoutSlashes s.toList ++ namesText names)
    (hnames : ArePlain names) (hne : names ≠ []) (hquery : '?' ∉ rest) (hfragment : '#' ∉ rest) :
    (∃ v, Url.parse g = .ok v ∧ Aims u (namesText names) v) ↔
      (namesOf s).getLast? ≠ some [] := by
  obtain ⟨hpath, hparse⟩ := resource_of_no_mark hcut hu hweb hg hnames hne hquery hfragment
  have hnames' : namesOf s = Url.reached (Url.pathPart rest) := by
    unfold namesOf
    rw [hcut.opening, List.append_nil]
  rw [hnames', ← Url.text_extended_iff (Url.startsWithSlash_pathPart rest) k hnames hne, ← hpath]
  constructor
  · rintro ⟨v, hv, haims⟩
    obtain rfl := Except.ok.inj (hparse.symm.trans hv)
    exact haims.path
  · exact fun htext => ⟨_, hparse, rfl, rfl, rfl, htext, rfl⟩

end

/-- A resource with plain names is asked for by putting it behind the text of a URL exactly if that
text takes resources. -/
theorem aims_iff {s g : String} {u : Url} (hu : Url.parse s = .ok u) (hweb : u.isWeb = true)
    {names : List (List Char)} (hg : g.toList = withoutSlashes s.toList ++ namesText names)
    (hnames : ArePlain names) (hne : names ≠ []) :
    (∃ v, Url.parse g = .ok v ∧ Aims u (namesText names) v) ↔ TakesResources s := by
  obtain ⟨rest, blank, k, hcut⟩ := isCut hu
  have hquery := hcut.mem_iff '?' (by decide)
  have hfragment := hcut.mem_iff '#' (by decide)
  by_cases hmark : '?' ∈ rest ∨ '#' ∈ rest
  · refine iff_of_false ?_ ?_
    · rintro ⟨v, hv, haims⟩
      exact not_aims_of_mark hcut hu hg hnames hne hmark hv haims
    · rintro ⟨⟨hnot, hnot'⟩, -, -⟩
      exact hmark.elim (fun h => hnot (hquery.2 h)) (fun h => hnot' (hfragment.2 h))
  · obtain ⟨hnot, hnot'⟩ := not_or.1 hmark
    by_cases hblank : blank = []
    · subst hblank
      rw [aims_iff_named hcut hu hweb hg hnames hne hnot hnot']
      constructor
      · intro hnamed
        exact ⟨⟨fun h => hnot (hquery.1 h), fun h => hnot' (hfragment.1 h)⟩,
          hcut.blank_iff.1 rfl, hnamed⟩
      · exact fun htakes => htakes.named
    · obtain rfl := hcut.either.resolve_right hblank
      refine iff_of_false ?_ fun htakes => hblank (hcut.blank_iff.2 htakes.closed)
      rintro ⟨v, hv, haims⟩
      exact not_aims_of_blank hcut hu hweb hg hnames hne hnot hnot' hblank hv haims

/-! ## Plain origins -/

/-- What may stand in a host and its port, and in a request: neither a slash nor a mark nor a blank. -/
def inOrigin (c : Char) : Bool :=
  Http.inTarget c && !(Url.isSlash c || c == '?' || c == '#' || c == '@' || Url.isEdge c)

/-- How the text of a URL starts that asks for no encryption. -/
def unencrypted : List Char :=
  ['h', 't', 't', 'p', ':', '/', '/']

/-- The text of a URL that names a host of the web, or a host and a port, and nothing behind them. -/
def IsPlainOrigin (s : String) : Prop :=
  ∃ origin k, s.toList = unencrypted ++ origin ++ List.replicate k '/' ∧
    ∀ c ∈ origin, inOrigin c = true

theorem ne_of_inOrigin {c d : Char} (h : inOrigin c = true) (hd : inOrigin d = false) : c ≠ d := by
  rintro rfl
  rw [h] at hd
  cases hd

/-- A plain origin leads to no names. -/
theorem namesOf_origin {s : String} {origin : List Char} {k : Nat}
    (hs : s.toList = unencrypted ++ origin ++ List.replicate k '/')
    (horigin : ∀ c ∈ origin, inOrigin c = true) : namesOf s = [] := by
  unfold namesOf
  rw [hs, Url.withoutSlashes_append_replicate]
  rcases List.eq_nil_or_concat' origin with rfl | ⟨front, last, rfl⟩
  · rfl
  · have hnone : ∀ c ∈ front ++ [last], Url.isSlash c = false ∧ Url.isEdge c = false := by
      intro c hc
      have hc := horigin c hc
      simp only [inOrigin, Bool.and_eq_true, Bool.not_eq_true', Bool.or_eq_false_iff] at hc
      exact ⟨hc.2.1.1.1.1, hc.2.2⟩
    have hlast : withoutSlashes (unencrypted ++ (front ++ [last])) =
        unencrypted ++ (front ++ [last]) := by
      rw [← List.append_assoc]
      refine List.rdropWhile_concat_neg _ _ _ fun hslash => ?_
      exact ne_of_inOrigin (horigin last List.mem_concat_self) (by decide) (eq_of_beq hslash)
    have hopening : Url.opening (unencrypted ++ (front ++ [last])) =
        unencrypted ++ (front ++ [last]) := by
      have hdrop : (unencrypted ++ (front ++ [last])).dropWhile Url.isEdge =
          unencrypted ++ (front ++ [last]) := rfl
      rw [Url.opening, hdrop, List.filter_append,
        List.filter_eq_self.2 fun c hc => Url.isShown_of_not_isEdge (hnone c hc).2]
      rfl
    have hscheme : Url.scheme? (unencrypted ++ (front ++ [last])) =
        some (['h', 't', 't', 'p'], ['/', '/'] ++ (front ++ [last])) :=
      Url.scheme?_eq_some_iff.2 ⟨['h', 't', 't', 'p'], rfl, List.all_eq_true.1 rfl,
        ⟨'h', rfl, by decide⟩, by decide⟩
    have hpath : Url.pathPart (['/', '/'] ++ (front ++ [last])) = [] := by
      rw [Url.pathPart, List.dropWhile_append_of_pos (List.all_eq_true.1 rfl)]
      refine List.dropWhile_eq_nil_iff.2 fun c hc => ?_
      rw [Url.isInside, (hnone c ((List.dropWhile_suffix _).subset hc)).1]
      rfl
    rw [hlast, hopening, hscheme]
    dsimp only
    rw [hpath]
    rfl

/-- Resources can be put behind a plain origin. -/
theorem IsPlainOrigin.takesResources {s : String} (h : IsPlainOrigin s) : TakesResources s := by
  obtain ⟨origin, k, hs, horigin⟩ := h
  have hmem : ∀ c ∈ s.toList, c ∈ unencrypted ∨ inOrigin c = true := by
    intro c hc
    rw [hs] at hc
    rcases List.mem_append.1 hc with hc | hc
    · exact (List.mem_append.1 hc).imp_right (horigin c)
    · rw [List.eq_of_mem_replicate hc]
      exact Or.inl (by decide)
  have hnot : ∀ c, inOrigin c = false → c ∉ unencrypted → c ∉ s.toList := by
    intro c horigin hin hc
    refine (hmem c hc).elim hin fun h => ?_
    rw [h] at horigin
    cases horigin
  refine ⟨⟨hnot _ (by decide) (by decide), hnot _ (by decide) (by decide)⟩, ?_, ?_⟩
  · intro c hc
    have hedge : Url.isEdge c = true := List.mem_rtakeWhile_imp hc
    refine absurd ((List.rtakeWhile_suffix Url.isEdge _).subset hc) (hnot c ?_ ?_)
    · simp [inOrigin, hedge]
    · have hnone : unencrypted.any Url.isEdge = false := by decide
      intro hin
      rw [List.any_eq_true.2 ⟨c, hin, hedge⟩] at hnone
      cases hnone
  · rw [namesOf_origin hs horigin]
    exact nofun

/-! ## Requests to a coordinator -/

namespace Query

/-- The names of the resource of all nodes. -/
def nodesNames : List (List Char) :=
  [['a', 'p', 'i'], ['v', '1'], ['n', 'o', 'd', 'e', 's']]

/-- The names of the resource that is asked for. -/
def names : Query → List (List Char)
  | entryOf a => nodesNames ++ [a.text.toList]
  | register _ => nodesNames
  | activate a _ => nodesNames ++ [a.text.toList, ['a', 'c', 't', 'i', 'v', 'a', 't', 'e']]
  | deactivate a =>
    nodesNames ++ [a.text.toList, ['d', 'e', 'a', 'c', 't', 'i', 'v', 'a', 't', 'e']]

theorem path_eq (q : Query) : q.path.toList = namesText q.names := by
  have hnode : ∀ a : Address, (Connection.nodePath a).toList =
      namesText nodesNames ++ '/' :: a.text.toList := by
    intro a
    rw [Connection.nodePath, String.toList_append, String.toList_append]
    rfl
  cases q with
  | entryOf a =>
    show (Connection.nodePath a).toList = _
    rw [hnode, names, Url.namesText_append, Url.namesText_singleton]
  | register r =>
    show Connection.nodesPath.toList = namesText nodesNames
    decide
  | activate a r =>
    show (Connection.nodePath a ++ "/activate").toList = _
    rw [String.toList_append, hnode, names, Url.namesText_append, List.append_assoc]
    rfl
  | deactivate a =>
    show (Connection.nodePath a ++ "/deactivate").toList = _
    rw [String.toList_append, hnode, names, Url.namesText_append, List.append_assoc]
    rfl

theorem isPlain_text (a : Address) : ∀ c ∈ a.text.toList, Url.isPlain c = true := by
  have hdigit : ∀ d : Fin 16, Url.isPlain (Text.digit d.val) = true := by decide
  intro c hc
  rw [Address.text, String.toList_ofList] at hc
  rcases List.mem_cons.1 hc with rfl | hc
  · rfl
  · rcases List.mem_cons.1 hc with rfl | hc
    · rfl
    · obtain ⟨d, -, rfl⟩ := List.mem_map.1 hc
      exact hdigit d

theorem arePlain_of_all {names : List (List Char)}
    (h : names.all (fun name => !name.isEmpty && name.all Url.isPlain) = true) : ArePlain names := by
  intro name hname
  have hname := List.all_eq_true.1 h name hname
  rw [Bool.and_eq_true, Bool.not_eq_true', List.isEmpty_eq_false_iff] at hname
  exact ⟨hname.1, List.all_eq_true.1 hname.2⟩

theorem arePlain (q : Query) : ArePlain q.names := by
  have hnodes : ArePlain nodesNames := arePlain_of_all rfl
  have haddress : ∀ a : Address, a.text.toList ≠ [] ∧ ∀ c ∈ a.text.toList, Url.isPlain c = true := by
    intro a
    refine ⟨?_, isPlain_text a⟩
    rw [Address.text, String.toList_ofList]
    exact List.cons_ne_nil _ _
  have hact : ArePlain [['a', 'c', 't', 'i', 'v', 'a', 't', 'e'],
      ['d', 'e', 'a', 'c', 't', 'i', 'v', 'a', 't', 'e']] := arePlain_of_all rfl
  intro name hname
  cases q with
  | entryOf a =>
    rcases List.mem_append.1 hname with hname | hname
    · exact hnodes name hname
    · rw [List.mem_singleton.1 hname]
      exact haddress a
  | register r => exact hnodes name hname
  | activate a r =>
    rcases List.mem_append.1 hname with hname | hname
    · exact hnodes name hname
    · rcases List.mem_cons.1 hname with rfl | hname
      · exact haddress a
      · exact hact name (by rw [List.mem_singleton.1 hname]; exact List.mem_cons_self)
  | deactivate a =>
    rcases List.mem_append.1 hname with hname | hname
    · exact hnodes name hname
    · rcases List.mem_cons.1 hname with rfl | hname
      · exact haddress a
      · exact hact name (List.mem_cons_of_mem _ hname)

theorem names_ne_nil (q : Query) : q.names ≠ [] := by
  cases q <;> exact List.cons_ne_nil _ _

end Query

/-- The URL of a resource is where a URL without user and password is. -/
theorem aims_withoutCredentials {base u : Url} {resource : List Char} :
    Aims base resource u.withoutCredentials ↔ Aims base resource u := by
  have hhost : u.withoutCredentials.authority.map Url.Authority.host =
      u.authority.map Url.Authority.host := by
    rw [Url.withoutCredentials, Option.map_map]
    rfl
  have hport : u.withoutCredentials.authority.map Url.Authority.port =
      u.authority.map Url.Authority.port := by
    rw [Url.withoutCredentials, Option.map_map]
    rfl
  constructor
  · intro h
    exact ⟨h.scheme, hhost ▸ h.host, hport ▸ h.port, h.path, h.query⟩
  · intro h
    exact ⟨h.scheme, hhost ▸ h.host, hport ▸ h.port, h.path, h.query⟩

/-- A connection is made to a URL of the web. -/
theorem connect_ok {base : String} {apiKey : Option String} {timeout : Span} {retry : Retry}
    {c : Connection} (h : connect base apiKey timeout retry = .ok c) :
    c = ⟨withoutTrailingSlashes base, apiKey, timeout, retry⟩ ∧
      ∃ u, Url.parse base = .ok u ∧ u.isWeb = true := by
  cases hcheck : checkWebUrl base with
  | error f =>
    have h : (checkWebUrl base >>= _) = _ := h
    rw [hcheck] at h
    cases h
  | ok u =>
    have h : (checkWebUrl base >>= _) = _ := h
    rw [hcheck] at h
    refine ⟨(Except.ok.inj h).symm, u, ?_⟩
    unfold checkWebUrl at hcheck
    split at hcheck
    · cases hcheck
    · next u' hu' =>
      split at hcheck
      · next hweb =>
        cases hcheck
        exact ⟨hu', hweb⟩
      · cases hcheck

namespace Query

/-- The resource of a query is put behind the text of the coordinator's URL, without the slashes at its
end. -/
theorem urlOf_toList {base : String} {c : Connection} (hbase : c.baseUrl = withoutTrailingSlashes base)
    (q : Query) :
    (c.urlOf q.path).toList = withoutSlashes base.toList ++ namesText q.names := by
  rw [Connection.urlOf, hbase, String.toList_append, path_eq, withoutTrailingSlashes,
    String.toList_ofList]
  rfl

/-- The URL of a query is that of its resource exactly if the text of the coordinator's URL takes
resources. -/
theorem url_aims_iff {base : String} {u : Url} (hu : Url.parse base = .ok u)
    (hweb : u.isWeb = true) {c : Connection} (hbase : c.baseUrl = withoutTrailingSlashes base)
    (q : Query) :
    (∃ v, Url.parse (c.urlOf q.path) = .ok v ∧ Aims u q.path.toList v) ↔ TakesResources base := by
  rw [path_eq]
  exact aims_iff hu hweb (q.urlOf_toList hbase) q.arePlain q.names_ne_nil

/-- A request goes where its URL does, with or without a user in front of the host. -/
theorem aims_of_made {c : Connection} {q : Query} {r : Http.Request} (hmade : q.made c = .ok r) :
    ∃ v, Url.parse (c.urlOf q.path) = .ok v ∧
      ∀ base resource, Aims base resource r.url ↔ Aims base resource v := by
  obtain ⟨-, -, v, hv, hurl, -⟩ := makeRequest_ok hmade
  refine ⟨v, hv, fun base resource => ?_⟩
  rcases askedUrl_cases v with hasked | hasked
  · rw [hurl, hasked]
  · rw [hurl, hasked, aims_withoutCredentials]

end Query

/-- The requests of every query go to its resource at the coordinator exactly if the text of the URL
takes resources. They are then sent, unless the token may not stand in a header, or no request may be
sent to the URL of the resource. -/
theorem requests_aim_iff (base : String) (apiKey : Option String) (timeout : Span) (retry : Retry)
    (c : Connection) (h : connect base apiKey timeout retry = .ok c) (q : Query) :
    ∃ u, Url.parse base = .ok u ∧
      ((∃ v, Url.parse (c.urlOf q.path) = .ok v ∧ Aims u q.path.toList v) ↔ TakesResources base) ∧
      ∀ t v, Plan.Course (q.plan c) t v →
        (∀ r ∈ sent t, Aims u q.path.toList r.url ↔ TakesResources base) ∧
        (TakesResources base → IsLegalKey apiKey →
          (∀ v, Url.parse (c.urlOf q.path) = .ok v → Http.isTarget (askedUrl v) = true) →
          sent t ≠ []) := by
  obtain ⟨rfl, u, hu, hweb⟩ := connect_ok h
  have haims := q.url_aims_iff hu hweb
    (c := ⟨withoutTrailingSlashes base, apiKey, timeout, retry⟩) rfl
  refine ⟨u, hu, haims, fun t v hcourse => ⟨?_, ?_⟩⟩
  · intro r hr
    cases hmade : q.made ⟨withoutTrailingSlashes base, apiKey, timeout, retry⟩ with
    | error f =>
      rw [Query.sent_of_error hmade hcourse] at hr
      cases hr
    | ok made =>
      obtain ⟨n, hsent⟩ := Query.sent_of_made hmade hcourse
      rw [hsent] at hr
      obtain rfl := List.eq_of_mem_replicate hr
      obtain ⟨v, hv, hiff⟩ := Query.aims_of_made hmade
      rw [hiff, ← haims]
      constructor
      · exact fun hv' => ⟨v, hv, hv'⟩
      · rintro ⟨v', hparse, hv'⟩
        obtain rfl := Except.ok.inj (hv.symm.trans hparse)
        exact hv'
  · intro htakes hkey htarget
    obtain ⟨v, hv, -⟩ := haims.2 htakes
    obtain ⟨made, hmade⟩ := makeRequest_isOk hv (htarget v hv) hkey
    obtain ⟨n, hsent⟩ := Query.sent_of_made (q := q) (c := ⟨_, apiKey, timeout, retry⟩) hmade hcourse
    rw [hsent]
    exact List.cons_ne_nil _ _

/-- A URL with a query is accepted, and the resource of all nodes is then not asked for there. -/
theorem query_in_front_of_resource :
    ∃ c, connect "http://[::1]?x=1" none (.ofSeconds 30) {} = .ok c ∧
      ∃ u, Url.parse "http://[::1]?x=1" = .ok u ∧
        ¬∃ v, Url.parse "http://[::1]?x=1/api/v1/nodes" = .ok v ∧
          Aims u "/api/v1/nodes".toList v := by
  have hconnect : connect "http://[::1]?x=1" none (.ofSeconds 30) {} =
      .ok ⟨"http://[::1]?x=1", none, .ofSeconds 30, {}⟩ := by rfl
  obtain ⟨u, hu, haims, -⟩ := requests_aim_iff _ _ _ _ _ hconnect
    (.register ⟨⟨List.replicate 40 0, rfl⟩, none, "", []⟩)
  refine ⟨_, hconnect, u, hu, ?_⟩
  intro hv
  exact absurd (haims.1 hv) (by decide)

example : TakesResources "http://[::1]:8080/base//" := by decide

end Enrollment.Client
