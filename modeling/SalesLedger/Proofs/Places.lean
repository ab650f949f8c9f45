import Mathlib.Data.List.DropRight
import Mathlib.Data.List.Induction
import SalesLedger.Storage.Store

/-!
# Where ledgers are

A tenant's ledger has a place of its own: `place_ledgerPath`, whatever the directory of the ledgers
is, the place ends in the name of the tenant's file, so no two tenants share one
(`eq_of_place_ledgerPath`). A directory that is written as an address would be read by the rules of
addresses, with the file's name in an option for instance; `Config.HasPlainDirectory` excludes that.

* `names_join`: a path to a file in a directory has the directory's names and the file's.
* `above_join_spec`: the directory that such a file lies in is found on the same way.
* `ofText_ledgerPath`: the path of a ledger is no address.
-/

namespace SalesLedger

open Storage

/-- The directory of the ledgers is written as a path and not as an address of a database. -/
def Config.HasPlainDirectory (c : Config) : Prop :=
  Address.scheme.isPrefixOf (Text.Utf8.toBytes c.dataDir) = false

namespace Storage

/-! ## Paths -/

namespace Path

theorem pieces_ne_nil {α : Type} (separates : α → Bool) (xs : List α) :
    pieces separates xs ≠ [] := by
  fun_cases pieces separates xs <;> simp_all

theorem pieces_append {α : Type} {separates : α → Bool} {s : α} (hs : separates s = true)
    (xs ys : List α) :
    pieces separates (xs ++ s :: ys) = pieces separates xs ++ pieces separates ys := by
  induction xs with
  | nil => simp [pieces, hs]
  | cons x xs ih =>
    obtain ⟨piece, rest, hpieces⟩ := List.exists_cons_of_ne_nil (pieces_ne_nil separates xs)
    rw [hpieces, List.cons_append] at ih
    rw [List.cons_append, pieces, pieces, ih, hpieces]
    split <;> rfl

theorem parts_append (xs ys : List Char) :
    parts (String.ofList (xs ++ '/' :: ys)) =
      parts (String.ofList xs) ++ parts (String.ofList ys) := by
  have hpieces : pieces (· == '/') (xs ++ '/' :: ys) =
      pieces (· == '/') xs ++ pieces (· == '/') ys :=
    @pieces_append Char (· == '/') '/' (by decide) xs ys
  simp only [parts, String.toList_ofList, hpieces, List.map_append]

theorem parts_of_plain {s : String} (hs : '/' ∉ s.toList) : parts s = [s] := by
  have hpieces : pieces (· == '/') s.toList = [s.toList] :=
    pieces_of_none fun c hc => by
      rw [beq_eq_false_iff_ne]
      rintro rfl
      exact hs hc
  simp [parts, hpieces, String.ofList_toList]

/-- What is joined to a directory is its last part. The others are those of the directory, but for
idle ones at the end. -/
theorem parts_join (dir : String) {file : String} (hs : '/' ∉ file.toList) :
    ∃ front, parts (join dir file) = front ++ [file] ∧
      front.rdropWhile isIdle = (parts dir).rdropWhile isIdle := by
  have hfile := parts_of_plain hs
  have hnone : parts "" = [""] := by decide +kernel
  have hempty : isIdle "" = true := by decide
  unfold join
  split
  · rename_i hdir
    rw [hdir, hnone, List.rdropWhile_singleton, if_pos hempty]
    exact ⟨[], hfile, List.rdropWhile_nil _⟩
  · split
    · rename_i hslash
      obtain ⟨cs, hcs⟩ := List.getLast?_eq_some_iff.1 hslash
      have hdir : dir = String.ofList (cs ++ '/' :: []) := by
        rw [← String.toList_inj, hcs, String.toList_ofList]
      have htext : dir ++ file = String.ofList (cs ++ '/' :: file.toList) := by
        rw [← String.toList_inj, String.toList_append, hcs, String.toList_ofList,
          List.append_assoc]
        rfl
      refine ⟨parts (String.ofList cs), ?_, ?_⟩
      · rw [htext, parts_append, String.ofList_toList, hfile]
      · rw [hdir, parts_append, String.ofList_nil, hnone, List.rdropWhile_concat_pos _ _ _ hempty]
    · have htext : dir ++ "/" ++ file = String.ofList (dir.toList ++ '/' :: file.toList) := by
        rw [← String.toList_inj, String.toList_append, String.toList_append, String.toList_ofList,
          List.append_assoc]
        simp
      refine ⟨parts dir, ?_, rfl⟩
      rw [htext, parts_append, String.ofList_toList, String.ofList_toList, hfile]

/-- Idle parts at the end of a path are no names. -/
theorem filter_rdropWhile (ps : List String) :
    (ps.rdropWhile isIdle).filter (fun part => !isIdle part) =
      ps.filter fun part => !isIdle part := by
  induction ps using List.reverseRecOn with
  | nil => rfl
  | append_singleton ps p ih =>
    rw [List.rdropWhile_concat]
    split
    · rename_i hidle
      rw [ih, List.filter_append, List.filter_cons_of_neg (by simp [hidle]), List.filter_nil,
        List.append_nil]
    · rfl

/-- What is joined to a directory is one name more. -/
theorem names_join (dir : String) {file : String} (hs : '/' ∉ file.toList)
    (hidle : isIdle file = false) : names (join dir file) = names dir ++ [file] := by
  obtain ⟨front, hparts, hfront⟩ := parts_join dir hs
  unfold names
  rw [hparts, List.filter_append, ← filter_rdropWhile front, hfront, filter_rdropWhile,
    List.filter_cons_of_pos (by simp [hidle]), List.filter_nil]

/-- What is joined to a directory begins where the directory does. -/
theorem start_join (working : Place) (dir : String) {file : String} (hs : '/' ∉ file.toList) :
    start working (join dir file) = start working dir := by
  have hhead : ∀ more : String, dir ≠ "" → start working (dir ++ more) = start working dir := by
    intro more hne
    have hcons : dir.toList ≠ [] := by simpa using hne
    obtain ⟨c, cs, hcons⟩ := List.exists_cons_of_ne_nil hcons
    unfold start
    rw [String.toList_append, hcons]
    rfl
  unfold join
  split
  · rename_i hempty
    subst hempty
    exact if_neg fun h => hs (List.mem_of_head? h)
  · rename_i hne
    split
    · exact hhead _ hne
    · rw [String.append_assoc]
      exact hhead _ hne

theorem place_join (working : Place) (dir : String) {file : String} (hs : '/' ∉ file.toList)
    (hidle : isIdle file = false) (hup : file ≠ "..") :
    place working (join dir file) = place working dir ++ [file] := by
  rw [place, names_join dir hs hidle, start_join working dir hs, List.foldl_append,
    List.foldl_cons, List.foldl_nil, step, if_neg hup]
  rfl

/-! ### The directory of a file -/

theorem above_join (dir : String) {file : String} (hs : '/' ∉ file.toList)
    (hidle : isIdle file = false) :
    above (join dir file) = "/".intercalate ((parts dir).rdropWhile isIdle) := by
  obtain ⟨front, hparts, hfront⟩ := parts_join dir hs
  unfold above
  rw [hparts, List.reverse_append, List.reverse_singleton, List.singleton_append,
    List.dropWhile_cons_of_neg (by simp [hidle]), List.drop_one, List.tail_cons]
  exact congrArg ("/".intercalate ·) hfront

theorem slash_not_mem_of_parts {path part : String} (h : part ∈ parts path) :
    '/' ∉ part.toList := by
  obtain ⟨piece, hpiece, rfl⟩ := List.mem_map.1 h
  rw [String.toList_ofList]
  clear h
  generalize path.toList = cs at hpiece
  induction cs generalizing piece with
  | nil =>
    obtain rfl := List.mem_singleton.1 hpiece
    exact List.not_mem_nil
  | cons c cs ih =>
    rw [pieces] at hpiece
    split at hpiece
    · rcases List.mem_cons.1 hpiece with rfl | hpiece
      · exact List.not_mem_nil
      · exact ih _ hpiece
    · rename_i hc
      split at hpiece
      · rename_i first rest hpieces
        rw [hpieces] at ih
        rcases List.mem_cons.1 hpiece with rfl | hpiece
        · have hfirst := ih first List.mem_cons_self
          rw [List.mem_cons, not_or]
          exact ⟨fun heq => hc (by simp [← heq]), hfirst⟩
        · exact ih _ (List.mem_cons_of_mem _ hpiece)
      · rename_i hnone
        exact absurd hnone (pieces_ne_nil _ _)

/-- The parts of what is put together of parts are these. -/
theorem parts_intercalate {ps : List String} (hne : ps ≠ [])
    (hplain : ∀ p ∈ ps, '/' ∉ p.toList) : parts ("/".intercalate ps) = ps := by
  induction ps with
  | nil => exact absurd rfl hne
  | cons p rest ih =>
    have hp := hplain p List.mem_cons_self
    cases rest with
    | nil => rw [String.intercalate_singleton, parts_of_plain hp]
    | cons q rest =>
      have htext : p ++ "/" ++ "/".intercalate (q :: rest) =
          String.ofList (p.toList ++ '/' :: ("/".intercalate (q :: rest)).toList) := by
        rw [← String.toList_inj, String.toList_append, String.toList_append, String.toList_ofList,
          List.append_assoc]
        simp
      rw [String.intercalate_cons_cons, htext, parts_append, String.ofList_toList,
        String.ofList_toList, parts_of_plain hp,
        ih (List.cons_ne_nil _ _) fun q' hq => hplain q' (List.mem_cons_of_mem _ hq),
        List.singleton_append]

theorem endsInDot_of_parts {path last : String} {front : List String}
    (hparts : parts path = front ++ [last]) (hidle : isIdle last = false) :
    endsInDot path = false := by
  obtain ⟨hempty, hdot⟩ : last ≠ "" ∧ last ≠ "." := by simpa [isIdle] using hidle
  unfold endsInDot
  rw [hparts, List.filter_append, List.filter_cons_of_pos (by simpa using hempty), List.filter_nil,
    List.getLast?_concat]
  simpa using hdot

/-- A path from the top begins with an empty part. -/
theorem head?_iff_parts (path : String) :
    path.toList.head? = some '/' ↔ ∃ part rest, parts path = "" :: part :: rest := by
  unfold parts
  cases path.toList with
  | nil => simp [pieces]
  | cons c cs =>
    obtain ⟨piece, rest, hpieces⟩ := List.exists_cons_of_ne_nil (pieces_ne_nil (· == '/') cs)
    rw [pieces, hpieces]
    by_cases hc : c = '/'
    · simp [hc]
    · simp [hc]

/-- What is left of a directory without idle parts at its end. -/
theorem rdropWhile_parts (dir : String) :
    ((parts dir).rdropWhile isIdle = [] ∧ names dir = []) ∨
      ∃ front last, (parts dir).rdropWhile isIdle = front ++ [last] ∧ isIdle last = false := by
  by_cases hnil : (parts dir).rdropWhile isIdle = []
  · refine .inl ⟨hnil, ?_⟩
    rw [names, ← filter_rdropWhile, hnil, List.filter_nil]
  · refine .inr ⟨_, _, (List.dropLast_append_getLast hnil).symm, ?_⟩
    exact Bool.eq_false_iff.2 (List.rdropWhile_last_not _ _ hnil)

/-- **The directory that something joined to a directory lies in** is that directory: it is found
on the same way. -/
theorem above_join_spec (working : Place) (dir : String) {file : String}
    (hs : '/' ∉ file.toList) (hidle : isIdle file = false) :
    names (above (join dir file)) = names dir ∧
      (names dir = [] ∨ start working (above (join dir file)) = start working dir) ∧
      endsInDot (above (join dir file)) = false := by
  rw [above_join dir hs hidle]
  rcases rdropWhile_parts dir with ⟨hnil, hnames⟩ | ⟨front, last, hlast, hlastIdle⟩
  · rw [hnil, String.intercalate_nil, hnames]
    exact ⟨by decide +kernel, .inl rfl, by decide +kernel⟩
  · have hparts : parts ("/".intercalate ((parts dir).rdropWhile isIdle)) =
        (parts dir).rdropWhile isIdle :=
      parts_intercalate (by simp [hlast]) fun p hp =>
        slash_not_mem_of_parts ((List.rdropWhile_prefix _ _).subset hp)
    refine ⟨?_, .inr ?_, endsInDot_of_parts (hparts.trans hlast) hlastIdle⟩
    · rw [names, hparts, filter_rdropWhile]
      rfl
    · -- both begin at the top, or none does
      have hhead : ("/".intercalate ((parts dir).rdropWhile isIdle)).toList.head? = some '/' ↔
          dir.toList.head? = some '/' := by
        obtain ⟨more, hmore⟩ := List.rdropWhile_prefix isIdle (parts dir)
        rw [hlast] at hmore
        rw [head?_iff_parts, head?_iff_parts, hparts, hlast, ← hmore]
        cases front with
        | nil =>
          have hne : last ≠ "" := fun h => by simp [isIdle, h] at hlastIdle
          simp [hne]
        | cons first front => cases front <;> simp
      unfold start
      simp only [hhead]

end Path

/-! ## Addresses -/

namespace Address

theorem toBytes_append (s t : String) :
    Text.Utf8.toBytes (s ++ t) = Text.Utf8.toBytes s ++ Text.Utf8.toBytes t := by
  simp [Text.Utf8.toBytes, String.toUTF8_eq_toByteArray]

/-- The scheme has no slash in it, so it stands in front of what comes before the first slash. -/
theorem isPrefixOf_of_slash {bytes more : List UInt8}
    (h : scheme.isPrefixOf (bytes ++ 0x2f :: more) = true) : scheme.isPrefixOf bytes = true := by
  rw [List.isPrefixOf_iff_prefix] at h ⊢
  by_cases hlen : scheme.length ≤ bytes.length
  · exact List.prefix_of_prefix_length_le h (List.prefix_append _ _) hlen
  · have hslash : bytes ++ [0x2f] <+: scheme := by
      refine List.prefix_of_prefix_length_le ?_ h (by simp; omega)
      exact ⟨more, by simp⟩
    have hmem : (0x2f : UInt8) ∈ scheme := hslash.subset (by simp)
    exact absurd hmem (by decide +kernel)

/-- What is joined to a path that is no address is none. -/
theorem scheme_join {dir file : String} (hdir : scheme.isPrefixOf (Text.Utf8.toBytes dir) = false)
    (hfile : scheme.isPrefixOf (Text.Utf8.toBytes file) = false) :
    scheme.isPrefixOf (Text.Utf8.toBytes (Path.join dir file)) = false := by
  rw [Bool.eq_false_iff] at hdir hfile ⊢
  intro h
  have hslash : Text.Utf8.toBytes "/" = [0x2f] := by decide +kernel
  unfold Path.join at h
  split at h
  · exact hfile h
  · split at h
    · rename_i hlast
      obtain ⟨cs, hcs⟩ := List.getLast?_eq_some_iff.1 hlast
      have hdirText : dir = String.ofList cs ++ "/" := by
        rw [← String.toList_inj, hcs]
        simp
      rw [toBytes_append, hdirText, toBytes_append, hslash, List.append_assoc] at h
      refine hdir ?_
      rw [hdirText, toBytes_append, hslash]
      have hprefix := isPrefixOf_of_slash h
      rw [List.isPrefixOf_iff_prefix] at hprefix ⊢
      exact hprefix.trans (List.prefix_append _ _)
    · rw [toBytes_append, toBytes_append, hslash, List.append_assoc] at h
      exact hdir (isPrefixOf_of_slash h)

end Address

/-! ## Ledgers -/

variable {config : Config}

/-- The name of a ledger's file has the characters of a number and a dot. -/
theorem allowed_of_mem_ledgerFile {t : Tenant} {c : Char} (h : c ∈ t.ledgerFile.toList) :
    Tenant.allowed c = true ∨ c = '.' := by
  have hfront : "sales_".toList.all Tenant.allowed = true := by decide +kernel
  have hback : ".db".toList.all (fun d => Tenant.allowed d || d == '.') = true := by decide +kernel
  simp only [Tenant.ledgerFile, String.toList_append, List.mem_append] at h
  obtain (h | h) | h := h
  · exact .inl (List.all_eq_true.1 hfront c h)
  · exact .inl (t.wellFormed.2.2 c h)
  · simpa using List.all_eq_true.1 hback c h

theorem not_mem_ledgerFile (t : Tenant) {c : Char} (hc : Tenant.allowed c = false)
    (hdot : c ≠ '.') : c ∉ t.ledgerFile.toList := by
  intro h
  rcases allowed_of_mem_ledgerFile h with h | h
  · rw [hc] at h
    cases h
  · exact hdot h

theorem slash_not_mem_ledgerFile (t : Tenant) : '/' ∉ t.ledgerFile.toList :=
  not_mem_ledgerFile t (by decide) (by decide)

/-- The name of a ledger's file begins with an `s`. -/
theorem toList_ledgerFile (t : Tenant) :
    t.ledgerFile.toList = 's' :: ("ales_".toList ++ t.id.toList ++ ".db".toList) := by
  simp [Tenant.ledgerFile, String.toList_append]

theorem ledgerFile_ne {t : Tenant} {s : String} (h : s.toList.head? ≠ some 's') :
    t.ledgerFile ≠ s := by
  intro heq
  rw [← heq, toList_ledgerFile] at h
  exact h rfl

theorem isIdle_ledgerFile (t : Tenant) : Path.isIdle t.ledgerFile = false := by
  have hempty : t.ledgerFile ≠ "" := ledgerFile_ne (by decide)
  have hdot : t.ledgerFile ≠ "." := ledgerFile_ne (by decide)
  simp [Path.isIdle, hempty, hdot]

/-- **The place of a ledger ends in the name of its file.** -/
theorem place_ledgerPath (working : Place) (t : Tenant) :
    (Path.place working (Store.ledgerPath config t)).getLast? = some t.ledgerFile := by
  rw [Store.ledgerPath, Path.place_join working config.dataDir (slash_not_mem_ledgerFile t)
    (isIdle_ledgerFile t) (ledgerFile_ne (by decide)), List.getLast?_concat]

/-- **No two tenants share a place.** -/
theorem eq_of_place_ledgerPath {working : Place} {s t : Tenant}
    (h : Path.place working (Store.ledgerPath config s) =
      Path.place working (Store.ledgerPath config t)) : s = t := by
  refine Tenant.ledgerFile_injective (Option.some.inj ?_)
  rw [← place_ledgerPath working s, h, place_ledgerPath]

theorem scheme_ledgerFile (t : Tenant) :
    Address.scheme.isPrefixOf (Text.Utf8.toBytes t.ledgerFile) = false := by
  have hfile : Text.Utf8.toBytes t.ledgerFile =
      Text.Utf8.toBytes "sales_" ++ Text.Utf8.toBytes (t.id ++ ".db") := by
    rw [← Address.toBytes_append]
    simp [Tenant.ledgerFile, String.append_assoc]
  have hsales : Text.Utf8.toBytes "sales_" = 0x73 :: Text.Utf8.toBytes "ales_" := by
    decide +kernel
  have hscheme : Address.scheme = 0x66 :: Text.Utf8.toBytes "ile:" := by decide +kernel
  rw [hfile, hsales, hscheme, List.cons_append, Bool.eq_false_iff]
  intro h
  rw [List.isPrefixOf_cons_cons] at h
  exact absurd h (by simp)

theorem scheme_ledgerPath (hdir : config.HasPlainDirectory) (t : Tenant) :
    Address.scheme.isPrefixOf (Text.Utf8.toBytes (Store.ledgerPath config t)) = false :=
  Address.scheme_join hdir (scheme_ledgerFile t)

/-- **The path of a ledger is no address**: it is opened as it is written, and kept. -/
theorem ofText_ledgerPath (hdir : config.HasPlainDirectory) (t : Tenant) (access : Access) :
    Address.ofText access (Store.ledgerPath config t) =
      .ok ⟨Store.ledgerPath config t, access, false⟩ :=
  Address.ofText_path (scheme_ledgerPath hdir t) access

theorem ledgerPath_ne_empty (t : Tenant) : Store.ledgerPath config t ≠ "" := by
  have hplace : (Path.place [] (Store.ledgerPath config t)).getLast? = some t.ledgerFile :=
    place_ledgerPath [] t
  intro h
  rw [h] at hplace
  have hname : (Path.place [] "").getLast? = none := by decide +kernel
  rw [hname] at hplace
  cases hplace

theorem isTransient_ledgerPath (t : Tenant) {access : Access} (haccess : access ≠ .memory)
    (immutable : Bool) :
    Address.isTransient ⟨Store.ledgerPath config t, access, immutable⟩ = false := by
  have hplace : (Path.place [] (Store.ledgerPath config t)).getLast? = some t.ledgerFile :=
    place_ledgerPath [] t
  have hmemory : Store.ledgerPath config t ≠ ":memory:" := by
    intro h
    rw [h] at hplace
    have hname : (Path.place [] ":memory:").getLast? = some ":memory:" := by decide +kernel
    rw [hname] at hplace
    exact ledgerFile_ne (by decide) (Option.some.inj hplace).symm
  simp [Address.isTransient, haccess, ledgerPath_ne_empty t, hmemory]

end Storage

end SalesLedger
