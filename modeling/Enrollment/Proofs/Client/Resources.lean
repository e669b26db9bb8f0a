import Enrollment.Proofs.Client.Aim
/-!
# Resources of a coordinator

What is read of the text of a resource, which is put behind the text of a coordinator's URL. Whether it is
a URL does not depend on the resource, as its names leave the host in front of them alone. Where the names
end up does depend on the text: they end the path, unless a question mark or a number sign is in front of
them, and then the path is that of the URL alone. Whether requests may be sent there depends on the host,
and on the length, to which the names are added in either case.

Results:
 1. `hierarchyText_resource`, `hostPart_resource`: what is read of a resource.
 2. `path_resource`: the path of a resource, and `end_resource`: what its text ends in.
 3. `resource_isOk`: if one resource is a URL, all are.
 4. `resource_isTarget`: if one may be asked for, all may that are not longer.
 5. `Query.path_of_made`, `Query.made_of_made`: all of it, of the requests of queries.
 6. `Query.isOk_of_room`: every query can be made where resources are taken and there is room for them.
-/

namespace Enrollment.Client

open Url (ArePlain namesText withoutSlashes)

section

variable {s g g' : String} {u v : Url} {rest blank : List Char} {k : Nat}
  {names names' : List (List Char)}

/-! ## What is read of a resource -/

/-- Behind a mark nothing belongs to the authority. -/
theorem hierarchyText_of_mark {rest t : List Char} (hmark : '?' ∈ rest ∨ '#' ∈ rest)
    (ht : '#' ∉ t) : Url.hierarchyText (rest ++ t) = Url.hierarchyText rest := by
  unfold Url.hierarchyText
  by_cases hfragment : '#' ∈ rest
  · obtain ⟨behind, hcut, hcut'⟩ := Url.cutAt_append_of_mem hfragment t
    rw [hcut, hcut']
  · have hboth : '#' ∉ rest ++ t := fun hin => (List.mem_append.1 hin).elim hfragment ht
    obtain ⟨behind, hcut, hcut'⟩ :=
      Url.cutAt_append_of_mem (hmark.resolve_right hfragment) t
    rw [Url.cutAt_of_notMem hboth, Url.cutAt_of_notMem hfragment, hcut, hcut']

theorem hierarchyText_of_no_mark {rest : List Char} (hquery : '?' ∉ rest) (hfragment : '#' ∉ rest) :
    Url.hierarchyText rest = rest := by
  unfold Url.hierarchyText
  rw [Url.cutAt_of_notMem hfragment, Url.cutAt_of_notMem hquery]

theorem mark_notMem_slashes {mark : Char} (hmark : mark ∈ ['?', '#']) (k : Nat) :
    mark ∉ List.replicate k '/' := by
  intro hin
  rw [List.eq_of_mem_replicate hin] at hmark
  revert hmark
  decide

/-- The authority of a URL of the web is read from the text behind its scheme. -/
theorem readsAs_of_parse {s : String} {scheme rest : List Char}
    (hscheme : Url.scheme? (Url.cleaned s.toList) = some (scheme, rest))
    (hweb : Url.IsWebScheme scheme) {u : Url} (hu : Url.parse s = .ok u) :
    ∃ a, u.authority = some a ∧
      Url.ReadsAs (Url.usualPort? scheme) (Url.hostPart (Url.hierarchyText rest)) a [] := by
  obtain ⟨-, hread, -⟩ := Url.parse_parts hscheme hu
  obtain ⟨a, hreads, hauthority, -⟩ := (Url.readHierarchy_web hweb _).1 hread
  exact ⟨a, hauthority, hreads⟩

/-- Slashes at the end of a text without marks do not belong to its host. -/
theorem readsAs_without_slashes {usual : Option Nat} {a : Url.Authority}
    (hquery : '?' ∉ rest) (hfragment : '#' ∉ rest)
    (h : Url.ReadsAs usual (Url.hostPart (Url.hierarchyText (rest ++ List.replicate k '/'))) a []) :
    Url.hostPart rest ≠ [] ∧ Url.ReadsAs usual (Url.hostPart rest) a [] := by
  have hnot : ∀ mark ∈ ['?', '#'], mark ∉ rest → mark ∉ rest ++ List.replicate k '/' :=
    fun mark hmark hrest hin => (List.mem_append.1 hin).elim hrest (mark_notMem_slashes hmark k)
  rw [hierarchyText_of_no_mark (hnot _ (by decide) hquery) (hnot _ (by decide) hfragment)] at h
  have hhost := Url.hostPart_ne_nil h.ne_nil
  rw [(Url.parts_append_slash hhost (startsWithSlash_replicate k)).1] at h
  exact ⟨hhost, h⟩

/-- With nothing in front that starts a query or a fragment, all of a resource is read. -/
theorem hierarchyText_resource (hblank : Url.IsBlank blank) (hnames : ArePlain names)
    (hquery : '?' ∉ rest) (hfragment : '#' ∉ rest) :
    Url.hierarchyText (rest ++ (blank ++ namesText names)) = rest ++ (blank ++ namesText names) :=
  hierarchyText_of_no_mark (mark_notMem hblank hnames (by decide) hquery)
    (mark_notMem hblank hnames (by decide) hfragment)

/-- Behind a mark, nothing is read of a resource. -/
theorem hierarchyText_resource_of_mark (hblank : Url.IsBlank blank) (hnames : ArePlain names)
    (hmark : '?' ∈ rest ∨ '#' ∈ rest) :
    Url.hierarchyText (rest ++ (blank ++ namesText names)) = Url.hierarchyText rest := by
  have hnone : '#' ∉ [] ++ (blank ++ namesText names) :=
    mark_notMem hblank hnames (by decide) List.not_mem_nil
  exact hierarchyText_of_mark hmark hnone

/-- Without marks, the host of a resource is that of the URL, with the blanks behind it if there are
any. -/
theorem hostPart_resource (hblank : Url.IsBlank blank) (hnames : ArePlain names)
    (hquery : '?' ∉ rest) (hfragment : '#' ∉ rest) (hhost : Url.hostPart rest ≠ []) :
    Url.hostPart (Url.hierarchyText (rest ++ (blank ++ namesText names))) =
      if Url.pathPart rest = [] then Url.hostPart rest ++ blank else Url.hostPart rest := by
  rw [hierarchyText_resource hblank hnames hquery hfragment, Url.hostPart_append hhost,
    takeWhile_resource hblank]

/-- The host of a resource does not depend on which resource it is. -/
theorem hostPart_resource_eq (hcut : IsCut s u.scheme rest blank k) (hu : Url.parse s = .ok u)
    (hweb : Url.IsWebScheme u.scheme) (hnames : ArePlain names) (hnames' : ArePlain names') :
    Url.hostPart (Url.hierarchyText (rest ++ (blank ++ namesText names))) =
      Url.hostPart (Url.hierarchyText (rest ++ (blank ++ namesText names'))) := by
  by_cases hmark : '?' ∈ rest ∨ '#' ∈ rest
  · rw [hierarchyText_resource_of_mark hcut.isBlank hnames hmark,
      hierarchyText_resource_of_mark hcut.isBlank hnames' hmark]
  · obtain ⟨hquery, hfragment⟩ := not_or.1 hmark
    obtain ⟨a, -, hreads⟩ := readsAs_of_parse hcut.alone hweb hu
    have hhost := (readsAs_without_slashes hquery hfragment hreads).1
    rw [hostPart_resource hcut.isBlank hnames hquery hfragment hhost,
      hostPart_resource hcut.isBlank hnames' hquery hfragment hhost]

/-! ## Paths of resources -/

/-- What is behind blanks belongs to the path. -/
theorem dropWhile_resource (hblank : Url.IsBlank blank) (names : List (List Char)) :
    (blank ++ namesText names).dropWhile Url.isInside = namesText names := by
  have hsplit := List.takeWhile_append_dropWhile (p := Url.isInside) (l := blank ++ namesText names)
  rw [takeWhile_resource hblank] at hsplit
  exact List.append_cancel_left hsplit

/-- Behind a mark, the path of a resource is that of the URL alone. -/
theorem path_resource_of_mark (hcut : IsCut s u.scheme rest blank k) (hu : Url.parse s = .ok u)
    (hweb : Url.IsWebScheme u.scheme)
    (hg : g.toList = withoutSlashes s.toList ++ namesText names) (hnames : ArePlain names)
    (hne : names ≠ []) (hv : Url.parse g = .ok v) (hmark : '?' ∈ rest ∨ '#' ∈ rest) :
    v.path = u.path := by
  obtain ⟨-, hread, -⟩ := Url.parse_parts hcut.alone hu
  obtain ⟨-, hread', -⟩ := Url.parse_parts (scheme?_resource hcut hg hnames hne) hv
  rw [hierarchyText_of_mark hmark (mark_notMem_slashes (by decide) k)] at hread
  rw [hierarchyText_resource_of_mark hcut.isBlank hnames hmark] at hread'
  obtain ⟨_, -, -, hpath⟩ := (Url.readHierarchy_web hweb _).1 hread
  obtain ⟨_, -, -, hpath'⟩ := (Url.readHierarchy_web hweb _).1 hread'
  rw [hpath, hpath']

/-- The names in front of those of a resource, with nothing in front that starts a query or a fragment. -/
def namesInFront (rest blank : List Char) : List (List Char) :=
  Url.reached (if Url.pathPart rest = [] then [] else Url.pathPart rest ++ blank)

/-- Without a mark in front of them, the names of a resource end its path, and nothing is behind it. -/
theorem path_resource_of_no_mark (hcut : IsCut s u.scheme rest blank k) (hu : Url.parse s = .ok u)
    (hweb : Url.IsWebScheme u.scheme)
    (hg : g.toList = withoutSlashes s.toList ++ namesText names) (hnames : ArePlain names)
    (hne : names ≠ []) (hv : Url.parse g = .ok v) (hquery : '?' ∉ rest) (hfragment : '#' ∉ rest) :
    v.path = .segments (namesInFront rest blank ++ names) ∧ v.tail = [] := by
  obtain ⟨_, -, hreads⟩ := readsAs_of_parse hcut.alone hweb hu
  have hhost := (readsAs_without_slashes hquery hfragment hreads).1
  obtain ⟨a, -, hparts⟩ := (Url.parse_web (scheme?_resource hcut hg hnames hne) hweb
    (mark_notMem hcut.isBlank hnames (by decide) hquery)
    (mark_notMem hcut.isBlank hnames (by decide) hfragment)).1 hv
  rw [hparts]
  refine ⟨?_, rfl⟩
  show Url.segmentPath true (Url.pathPart _) = _
  rw [Url.pathPart_append hhost, dropWhile_resource hcut.isBlank, namesInFront]
  split
  · exact Url.segmentPath_append_names (s := []) (fun c hc => by cases hc) hnames hne
  · next hpath =>
    have hstarts : Url.StartsWithSlash (Url.pathPart rest ++ blank) := by
      intro c hc
      obtain ⟨d, path, hd⟩ := List.exists_cons_of_ne_nil hpath
      have hslash := Url.startsWithSlash_pathPart rest
      rw [hd] at hc hslash
      exact hslash c hc
    rw [← List.append_assoc]
    exact Url.segmentPath_append_names hstarts hnames hne

/-- The names of a resource end its path, unless a mark is in front of them, and then the path is that
of the URL alone. -/
theorem path_resource (hu : Url.parse s = .ok u) (hweb : u.isWeb = true)
    (hg : g.toList = withoutSlashes s.toList ++ namesText names) (hnames : ArePlain names)
    (hne : names ≠ []) (hv : Url.parse g = .ok v) :
    if '?' ∈ s.toList ∨ '#' ∈ s.toList then v.path = u.path
    else ∃ front, v.path = .segments (front ++ names) := by
  have hweb := (Url.isWeb_iff u).1 hweb
  obtain ⟨rest, blank, k, hcut⟩ := isCut hu
  have hmarks : '?' ∈ s.toList ∨ '#' ∈ s.toList ↔ '?' ∈ rest ∨ '#' ∈ rest :=
    or_congr (hcut.mem_iff '?' (by decide)) (hcut.mem_iff '#' (by decide))
  split
  · next hmark => exact path_resource_of_mark hcut hu hweb hg hnames hne hv (hmarks.1 hmark)
  · next hmark =>
    obtain ⟨hquery, hfragment⟩ := not_or.1 (mt hmarks.2 hmark)
    exact ⟨_, (path_resource_of_no_mark hcut hu hweb hg hnames hne hv hquery hfragment).1⟩

/-! ## Ends of resources -/

theorem tail_eq (u : Url) :
    u.tail = (u.query.elim [] ('?' :: ·)) ++ (u.fragment.elim [] ('#' :: ·)) := by
  unfold Url.tail
  cases u.query <;> cases u.fragment <;> rfl

/-- Plain names stay as they are where neither plain characters nor slashes are encoded. -/
theorem encode_names {encoded : Char → Bool} (hplain : ∀ c, Url.isPlain c = true → encoded c = false)
    (hslash : encoded '/' = false) (hnames : ArePlain names) :
    Url.Percent.encode encoded (namesText names) = namesText names := by
  refine Url.Percent.encode_of_plain fun c hc => ?_
  obtain ⟨name, hname, hc⟩ := List.mem_flatMap.1 hc
  rcases List.mem_cons.1 hc with rfl | hc
  · exact hslash
  · exact hplain c ((hnames name hname).2 c hc)

theorem inFragment_of_isPlain {c : Char} (h : Url.isPlain c = true) :
    Url.Percent.inFragment c = false :=
  (Bool.or_eq_false_iff.1 (Url.inPath_of_isPlain h)).1

theorem inQuery_of_isPlain {c : Char} (h : Url.isPlain c = true) :
    Url.Percent.inQuery true c = false := by
  have hcontrol : Url.Percent.isControl c = false :=
    (Bool.or_eq_false_iff.1 (inFragment_of_isPlain h)).1
  have hmarks : c ∉ [' ', '"', '#', '<', '>'] := by
    intro hin
    have hnone : [' ', '"', '#', '<', '>'].any Url.isPlain = false := by decide
    rw [List.any_eq_true.2 ⟨c, hin, h⟩] at hnone
    cases hnone
  unfold Url.Percent.inQuery
  rw [hcontrol, decide_eq_false hmarks, beq_false_of_ne (Url.ne_of_isPlain h (by decide))]
  rfl

/-- The names of a resource end the text of its URL, and what is between them and the host does not
depend on which resource it is. -/
theorem end_resource (hcut : IsCut s u.scheme rest blank k) (hu : Url.parse s = .ok u)
    (hweb : Url.IsWebScheme u.scheme) :
    ∃ front, ∀ {g v names}, g.toList = withoutSlashes s.toList ++ namesText names →
      ArePlain names → names ≠ [] → Url.parse g = .ok v →
        v.path.text ++ v.tail = front ++ namesText names := by
  have hspecial : ((Url.usualPort? u.scheme).isSome || Url.namesFiles u.scheme) = true := by
    rw [hweb.usualPort.1]
    rfl
  by_cases hfragment : '#' ∈ rest
  · refine ⟨u.path.text ++ (((Url.cutAt '?' (rest.takeWhile (· != '#'))).2.map
      (Url.Percent.encode (Url.Percent.inQuery true))).elim [] ('?' :: ·) ++
      '#' :: Url.Percent.encode Url.Percent.inFragment
        ((Url.cutAt '#' rest).2.getD [] ++ blank)), ?_⟩
    intro g v names hg hnames hne hv
    obtain ⟨behind, hcutAt, hcutAt'⟩ := Url.cutAt_append_of_mem hfragment (blank ++ namesText names)
    obtain ⟨-, -, hquery, hend⟩ := Url.parse_parts (scheme?_resource hcut hg hnames hne) hv
    rw [hspecial, Url.queryText?, hcutAt'] at hquery
    rw [hcutAt', ← List.append_assoc, Option.map_some, Url.encode_append,
      encode_names (fun _ => inFragment_of_isPlain) rfl hnames] at hend
    rw [path_resource_of_mark hcut hu hweb hg hnames hne hv (.inr hfragment), tail_eq, hquery, hend,
      hcutAt]
    simp only [List.append_assoc, List.cons_append, Option.elim_some, Option.getD_some]
  · by_cases hquery : '?' ∈ rest
    · refine ⟨u.path.text ++ '?' :: Url.Percent.encode (Url.Percent.inQuery true)
        ((Url.cutAt '?' rest).2.getD [] ++ blank), ?_⟩
      intro g v names hg hnames hne hv
      obtain ⟨behind, hcutAt, hcutAt'⟩ := Url.cutAt_append_of_mem hquery (blank ++ namesText names)
      have hboth := mark_notMem hcut.isBlank hnames (by decide) hfragment
      obtain ⟨-, -, hread, hend⟩ := Url.parse_parts (scheme?_resource hcut hg hnames hne) hv
      rw [hspecial, Url.queryText?, Url.cutAt_of_notMem hboth, hcutAt', ← List.append_assoc,
        Option.map_some, Url.encode_append,
        encode_names (fun _ => inQuery_of_isPlain) rfl hnames] at hread
      rw [Url.cutAt_of_notMem hboth] at hend
      rw [path_resource_of_mark hcut hu hweb hg hnames hne hv (.inl hquery), tail_eq, hread, hend,
        hcutAt]
      simp only [List.append_assoc, List.cons_append, Option.elim_some, Option.elim_none,
        Option.map_none, Option.getD_some, List.append_nil]
    · refine ⟨namesText (namesInFront rest blank), ?_⟩
      intro g v names hg hnames hne hv
      obtain ⟨hpath, hend⟩ :=
        path_resource_of_no_mark hcut hu hweb hg hnames hne hv hquery hfragment
      rw [hpath, hend, List.append_nil]
      exact Url.namesText_append _ _

/-! ## Whether a resource is a URL -/

/-- A text of the web whose authority can be read is a URL. -/
theorem parse_of_readsAs {scheme : List Char}
    (hscheme : Url.scheme? (Url.cleaned s.toList) = some (scheme, rest))
    (hweb : Url.IsWebScheme scheme) {a : Url.Authority}
    (hreads : Url.ReadsAs (Url.usualPort? scheme) (Url.hostPart (Url.hierarchyText rest)) a []) :
    ∃ u, Url.parse s = .ok u := by
  have hread := (Url.readHierarchy_web hweb
    ((Url.cutAt '#' rest).2.isNone && (Url.queryText? rest).isNone)).2 ⟨a, hreads, rfl, rfl⟩
  unfold Url.parse
  rw [hscheme]
  show ∃ u, (Url.readHierarchy scheme (Url.hierarchyText rest)
    ((Url.cutAt '#' rest).2.isNone && (Url.queryText? rest).isNone) >>= _) = _
  rw [hread]
  exact ⟨_, rfl⟩

/-- If one resource is a URL, all are. -/
theorem resource_isOk (hu : Url.parse s = .ok u) (hweb : u.isWeb = true)
    (hg : g.toList = withoutSlashes s.toList ++ namesText names) (hnames : ArePlain names)
    (hne : names ≠ []) (hv : Url.parse g = .ok v)
    (hg' : g'.toList = withoutSlashes s.toList ++ namesText names') (hnames' : ArePlain names')
    (hne' : names' ≠ []) : ∃ v', Url.parse g' = .ok v' := by
  have hweb := (Url.isWeb_iff u).1 hweb
  obtain ⟨rest, blank, k, hcut⟩ := isCut hu
  obtain ⟨a, -, hreads⟩ := readsAs_of_parse (scheme?_resource hcut hg hnames hne) hweb hv
  rw [hostPart_resource_eq hcut hu hweb hnames hnames'] at hreads
  exact parse_of_readsAs (scheme?_resource hcut hg' hnames' hne') hweb hreads

/-- A URL that takes resources keeps its host, and has nothing behind them. -/
theorem authority_of_takes (hu : Url.parse s = .ok u) (hweb : u.isWeb = true)
    (htakes : TakesResources s) (hg : g.toList = withoutSlashes s.toList ++ namesText names)
    (hnames : ArePlain names) (hne : names ≠ []) (hv : Url.parse g = .ok v) :
    v.authority = u.authority ∧ v.tail = [] ∧ ∃ a, u.authority = some a := by
  obtain ⟨rest, blank, k, hcut⟩ := isCut hu
  obtain rfl := hcut.blank_iff.2 htakes.closed
  obtain ⟨-, hparse⟩ := resource_of_no_mark hcut hu hweb hg hnames hne
    (fun h => htakes.unmarked.1 ((hcut.mem_iff '?' (by decide)).2 h))
    (fun h => htakes.unmarked.2 ((hcut.mem_iff '#' (by decide)).2 h))
  obtain rfl := Except.ok.inj (hparse.symm.trans hv)
  obtain ⟨a, ha, -⟩ := readsAs_of_parse hcut.alone ((Url.isWeb_iff u).1 hweb) hu
  exact ⟨rfl, rfl, a, ha⟩

/-! ## Whether a resource may be asked for -/

theorem chars_of_authority {u : Url} {a : Url.Authority} (h : u.authority = some a) :
    u.chars = u.scheme ++ ':' :: a.text ++ (u.path.text ++ u.tail) := by
  unfold Url.chars Url.pathMark
  rw [h, List.append_nil, List.append_assoc]

/-- Whether a request may be sent to a URL depends on the host and the length. -/
theorem isTarget_iff (u : Url) :
    Http.isTarget u = true ↔ u.isWeb = true ∧ u.chars.length ≤ Http.targetLimit ∧
      (u.authority.all fun a => a.host.text.all Http.inTarget) = true := by
  unfold Http.isTarget
  rw [Bool.and_eq_true, Bool.and_eq_true, decide_eq_true_iff, and_assoc]

theorem isWeb_of_scheme (h : v.scheme = u.scheme) : v.isWeb = u.isWeb := by
  unfold Url.isWeb
  rw [h]

theorem askedUrl_parts (u : Url) :
    (askedUrl u).scheme = u.scheme ∧ (askedUrl u).path = u.path ∧ (askedUrl u).tail = u.tail := by
  rcases askedUrl_cases u with h | h <;> rw [h] <;> exact ⟨rfl, rfl, rfl⟩

theorem askedUrl_authority (h : v.authority = u.authority) :
    (askedUrl v).authority = (askedUrl u).authority := by
  have hcredentials : credentialsOf v = credentialsOf u := by
    unfold credentialsOf
    rw [h]
  unfold askedUrl
  rw [hcredentials]
  split
  · exact congrArg (Option.map _) h
  · exact h

/-- What is asked for is not longer than the URL. -/
theorem length_askedUrl_le (u : Url) : (askedUrl u).chars.length ≤ u.chars.length := by
  rcases askedUrl_cases u with h | h
  · rw [h]
  · rw [h]
    cases hauthority : u.authority with
    | none =>
      have hsame : u.withoutCredentials = u := by
        unfold Url.withoutCredentials
        rw [hauthority, Option.map_none, ← hauthority]
      rw [hsame]
    | some a =>
      have hless : ({ a with username := [], password := [] } : Url.Authority).text.length ≤
          a.text.length := by
        unfold Url.Authority.text
        simp only [List.length_append, List.length_cons]
        exact Nat.add_le_add_right (Nat.add_le_add_right (by simp [Url.Authority.credentials]) _) _
      have hparts := askedUrl_parts u
      rw [h] at hparts
      rw [chars_of_authority hauthority,
        chars_of_authority (u := u.withoutCredentials) (by
          rw [Url.withoutCredentials, hauthority, Option.map_some]),
        hparts.1, hparts.2.1, hparts.2.2]
      simp only [List.length_append, List.length_cons] at hless ⊢
      omega

theorem isTarget_askedUrl (h : Http.isTarget u = true) : Http.isTarget (askedUrl u) = true := by
  obtain ⟨hweb, hlength, hhost⟩ := (isTarget_iff u).1 h
  refine (isTarget_iff _).2 ⟨?_, (length_askedUrl_le u).trans hlength, ?_⟩
  · rw [isWeb_of_scheme (askedUrl_parts u).1, hweb]
  · rcases askedUrl_cases u with hasked | hasked
    · rw [hasked]
      exact hhost
    · rw [hasked, Url.withoutCredentials]
      cases hauthority : u.authority with
      | none => rfl
      | some a =>
        rw [hauthority] at hhost
        exact hhost

/-- If one resource may be asked for, all that are not longer may. -/
theorem resource_isTarget (hu : Url.parse s = .ok u) (hweb : u.isWeb = true)
    (hg : g.toList = withoutSlashes s.toList ++ namesText names) (hnames : ArePlain names)
    (hne : names ≠ []) (hv : Url.parse g = .ok v) (htarget : Http.isTarget (askedUrl v) = true)
    (hg' : g'.toList = withoutSlashes s.toList ++ namesText names') (hnames' : ArePlain names')
    (hne' : names' ≠ []) {v' : Url} (hv' : Url.parse g' = .ok v')
    (hlength : (namesText names').length ≤ (namesText names).length) :
    Http.isTarget (askedUrl v') = true := by
  have hweb := (Url.isWeb_iff u).1 hweb
  obtain ⟨rest, blank, k, hcut⟩ := isCut hu
  have hscheme := scheme?_resource hcut hg hnames hne
  have hscheme' := scheme?_resource hcut hg' hnames' hne'
  obtain ⟨a, ha, hreads⟩ := readsAs_of_parse hscheme hweb hv
  obtain ⟨a', ha', hreads'⟩ := readsAs_of_parse hscheme' hweb hv'
  rw [hostPart_resource_eq hcut hu hweb hnames' hnames] at hreads'
  obtain rfl := hreads.unique hweb.usualPort.1 hreads'
  have hauthority := askedUrl_authority (ha'.trans ha.symm)
  have hsame : (askedUrl v').scheme = (askedUrl v).scheme := by
    rw [(askedUrl_parts v').1, (askedUrl_parts v).1, (Url.parse_parts hscheme hv).1,
      (Url.parse_parts hscheme' hv').1]
  obtain ⟨htargetWeb, hlimit, hhost⟩ := (isTarget_iff _).1 htarget
  refine (isTarget_iff _).2 ⟨(isWeb_of_scheme hsame).trans htargetWeb, ?_, hauthority ▸ hhost⟩
  obtain ⟨front, hfront⟩ := end_resource hcut hu hweb
  have hend := congrArg List.length (hfront hg hnames hne hv)
  have hend' := congrArg List.length (hfront hg' hnames' hne' hv')
  obtain ⟨b, hb⟩ : ∃ b, (askedUrl v).authority = some b := by
    rcases askedUrl_cases v with h | h
    · exact ⟨a, by rw [h, ha]⟩
    · exact ⟨_, by rw [h, Url.withoutCredentials, ha, Option.map_some]⟩
  rw [chars_of_authority hb, (askedUrl_parts v).2.1, (askedUrl_parts v).2.2] at hlimit
  rw [chars_of_authority (hauthority.trans hb), (askedUrl_parts v').2.1, (askedUrl_parts v').2.2,
    hsame]
  rw [List.length_append] at hend hend' hlimit ⊢
  simp only [List.length_append] at hend hend' hlimit ⊢
  omega

end

/-- How many characters the path of a resource has at most. -/
def resourceLimit : Nat := 67

/-- Requests may be sent to the host of a URL, also with the path of a resource in the place of the slashes
at the end of its own. -/
def LeavesRoom (u : Url) : Prop :=
  (u.authority.all fun a => a.host.text.all Http.inTarget) = true ∧
    u.chars.length - u.path.text.length + (withoutSlashes u.path.text).length + resourceLimit ≤
      Http.targetLimit

instance (u : Url) : Decidable (LeavesRoom u) :=
  inferInstanceAs (Decidable (_ ∧ _))

/-! ## Requests of queries -/

namespace Query

section

variable {base : String} {apiKey : Option String} {timeout : Span} {retry : Retry} {c : Connection}
  {q : Query} {r : Http.Request}

/-- The names of the resource of a query end the path of its request, unless a mark is in the text of
the coordinator's URL, and then the path is that of the URL alone. -/
theorem path_of_made (hc : connect base apiKey timeout retry = .ok c) {u : Url}
    (hu : Url.parse base = .ok u) (h : q.made c = .ok r) :
    if '?' ∈ base.toList ∨ '#' ∈ base.toList then r.url.path = u.path
    else ∃ front, r.url.path = .segments (front ++ q.names) := by
  obtain ⟨rfl, u', hu', hweb⟩ := connect_ok hc
  obtain rfl := Except.ok.inj (hu.symm.trans hu')
  obtain ⟨-, -, v, hv, hurl, -⟩ := makeRequest_ok h
  -- A user in front of the host is no part of the path.
  rw [hurl, (askedUrl_parts v).2.1]
  exact path_resource hu hweb (q.urlOf_toList rfl) q.arePlain q.names_ne_nil hv

/-- A query cannot be made if no request may be sent to the URL of its resource. -/
theorem made_of_not_isTarget {v : Url} (hv : Url.parse (c.urlOf q.path) = .ok v)
    (htarget : Http.isTarget (askedUrl v) = false) : ∃ f, q.made c = .error f := by
  cases h : q.made c with
  | error f => exact ⟨f, rfl⟩
  | ok r =>
    obtain ⟨-, -, v', hv', -, hasked⟩ := makeRequest_ok h
    obtain rfl := Except.ok.inj (hv.symm.trans hv')
    rw [htarget] at hasked
    cases hasked

/-- If the request of one query can be made, that of every query can whose resource is not longer. -/
theorem made_of_made (hc : connect base apiKey timeout retry = .ok c) (h : q.made c = .ok r)
    {q' : Query} (hlength : q'.path.toList.length ≤ q.path.toList.length) :
    ∃ r', q'.made c = .ok r' := by
  obtain ⟨rfl, u, hu, hweb⟩ := connect_ok hc
  obtain ⟨-, -, v, hv, -, htarget⟩ := makeRequest_ok h
  have hg' := q'.urlOf_toList (c := ⟨withoutTrailingSlashes base, apiKey, timeout, retry⟩) rfl
  obtain ⟨v', hv'⟩ := resource_isOk hu hweb (q.urlOf_toList rfl) q.arePlain q.names_ne_nil hv hg'
    q'.arePlain q'.names_ne_nil
  rw [path_eq, path_eq] at hlength
  exact makeRequest_isOk hv' (resource_isTarget hu hweb (q.urlOf_toList rfl) q.arePlain q.names_ne_nil
    hv htarget hg' q'.arePlain q'.names_ne_nil hv' hlength) (isLegalKey_of_made h)

theorem length_nodePath (a : Address) : (Connection.nodePath a).toList.length = 56 := by
  have haddress : a.text.toList.length = 42 := by
    rw [Address.text, String.toList_ofList]
    simp [Address.digitChars, Address.digitCount, a.count]
  rw [Connection.nodePath, String.toList_append, String.toList_append, List.length_append,
    List.length_append, haddress]
  rfl

theorem length_path_le (q : Query) : q.path.toList.length ≤ resourceLimit := by
  cases q with
  | entryOf a => exact (length_nodePath a).trans_le (by decide)
  | register r => exact (show Connection.nodesPath.toList.length ≤ _ by decide)
  | activate a r =>
    show (Connection.nodePath a ++ "/activate").toList.length ≤ _
    rw [String.toList_append, List.length_append, length_nodePath]
    decide
  | deactivate a =>
    show (Connection.nodePath a ++ "/deactivate").toList.length ≤ _
    rw [String.toList_append, List.length_append, length_nodePath]
    decide

/-- Every query can be made if resources can be put behind the text of the coordinator's URL, and it
leaves room for them. -/
theorem isOk_of_room (hc : connect base apiKey timeout retry = .ok c) (hkey : IsLegalKey apiKey)
    {u : Url} (hu : Url.parse base = .ok u) (htakes : TakesResources base) (hroom : LeavesRoom u)
    (q : Query) :
    ∃ v r, Url.parse (c.urlOf q.path) = .ok v ∧ Aims u q.path.toList v ∧ q.made c = .ok r := by
  obtain ⟨rfl, u', hu', hweb⟩ := connect_ok hc
  obtain rfl := Except.ok.inj (hu.symm.trans hu')
  have hg := q.urlOf_toList (c := ⟨withoutTrailingSlashes base, apiKey, timeout, retry⟩) rfl
  obtain ⟨v, hv, haims⟩ := (q.url_aims_iff hu hweb
    (c := ⟨withoutTrailingSlashes base, apiKey, timeout, retry⟩) rfl).2 htakes
  obtain ⟨hhost, hlimit⟩ := hroom
  obtain ⟨hauthority, htail, a, ha⟩ :=
    authority_of_takes hu hweb htakes hg q.arePlain q.names_ne_nil hv
  have hlength : v.chars.length ≤ Http.targetLimit := by
    have hpath := length_path_le q
    rw [chars_of_authority ha] at hlimit
    rw [chars_of_authority (hauthority.trans ha), haims.scheme, haims.path, htail]
    simp only [List.length_append, List.length_nil] at hlimit ⊢
    omega
  have htarget : Http.isTarget v = true :=
    (isTarget_iff v).2 ⟨(isWeb_of_scheme haims.scheme).trans hweb, hlength, hauthority ▸ hhost⟩
  have hmade : ∃ r, q.made ⟨withoutTrailingSlashes base, apiKey, timeout, retry⟩ = .ok r :=
    makeRequest_isOk hv (isTarget_askedUrl htarget) hkey
  obtain ⟨r, hr⟩ := hmade
  exact ⟨v, r, hv, haims, hr⟩

end

end Query

end Enrollment.Client
