import Mathlib
import Montage.Proofs.Manifest.AssetArguments
import Montage.Proofs.Manifest.Progress

/-! The assets of a manifest file with those that a caller names: which of them count, where they have
to be, and what comes of them. -/

namespace Montage

variable {disk : Disk} {path : String}

section Files

/-- Something is where a path leads. -/
def Disk.Leads (disk : Disk) (path : String) : Prop :=
  '\x00' ∉ (Path.ofText path).text.toList ∧ (disk.status (Path.ofText path).text).isOk = true

instance (disk : Disk) (path : String) : Decidable (disk.Leads path) :=
  inferInstanceAs (Decidable (_ ∧ _))

/-- A path is too long to be followed, or one of the names on its way is. -/
def Disk.Overlong (disk : Disk) (path : String) : Prop :=
  '\x00' ∉ (Path.ofText path).text.toList ∧
    disk.status (Path.ofText path).text = .error .tooLong

theorem isThere_overlong (long : disk.Overlong path) :
    disk.isThere (Path.ofText path).text =
      .error (.refused .tooLong (Path.ofText path).text) := by
  rw [Disk.isThere, if_neg (by simpa using long.1), long.2]

theorem isThere_of_not_overlong (short : ¬disk.Overlong path) :
    disk.isThere (Path.ofText path).text = .ok (decide (disk.Leads path)) := by
  rw [Disk.isThere]
  by_cases null : '\x00' ∈ (Path.ofText path).text.toList
  · have nowhere : ¬disk.Leads path := fun leads => leads.1 null
    rw [if_pos (by simpa using null), decide_eq_false nowhere]
  · rw [if_neg (by simpa using null)]
    have leads : disk.Leads path ↔ (disk.status (Path.ofText path).text).isOk = true :=
      and_iff_right null
    split <;> rename_i status
    · rw [decide_eq_true (leads.mpr (by rw [status]; rfl))]
    · exact absurd ⟨null, status⟩ short
    · rw [decide_eq_false (leads.not.mpr (by rw [status]; exact Bool.false_ne_true))]

theorem Disk.Leads.short (leads : disk.Leads path) : ¬disk.Overlong path := by
  rintro ⟨_, long⟩
  have ok := leads.2
  rw [long] at ok
  cases ok

/-- A name that is too long cannot be followed. -/
theorem Disk.overlong_of_plain (plain : PlainName path) (null : '\x00' ∉ path.toList)
    (inside : disk.entry? disk.workingDirectory = some .directory)
    (long : maxNameBytes < path.utf8ByteSize) :
    (Path.ofText path).text = path ∧ disk.Overlong path := by
  have text : (Path.ofText path).text = path := by
    rw [Path.ofText_plain plain, Path.text]
    simp [plain.named]
  have pieces : (Path.splitSlashes path.toList).filter (!·.isEmpty) = [path.toList] := by
    rw [Path.splitSlashes_plain plain.slashless]
    simpa using plain.named
  have relative : (path.toList.head? == some '/') = false := by
    rw [beq_eq_false_iff_ne]
    exact fun same => plain.slashless (List.mem_of_head? same)
  have ended : (path.toList.getLast? == some '/') = false := by
    rw [beq_eq_false_iff_ne]
    exact fun same => plain.slashless (List.mem_of_getLast? same)
  have full : path.toList.isEmpty = false := by simpa using plain.named
  have walked : disk.walk disk.workingDirectory [path] = .error .tooLong := by
    simp [walk, inside, plain.noDot, plain.noDots, long]
  have found : disk.find path = .error .tooLong := by
    simp only [find, full, pieces, relative, ended, List.map_cons, List.map_nil, String.ofList_toList,
      Bool.false_eq_true, if_false, walked, ite_self]
  refine ⟨text, by rwa [text], ?_⟩
  rw [text, status, found]
  rfl

/-- The first path that is too long is complained of, or those that lead nowhere are listed. -/
theorem missingPaths_cases (disk : Disk) (paths : List String) :
    (∃ earlier first later, paths = earlier ++ first :: later ∧
      (∀ path ∈ earlier, ¬disk.Overlong path) ∧ disk.Overlong first ∧
      missingPaths disk paths = .error (.system (.refused .tooLong (Path.ofText first).text))) ∨
    (∀ path ∈ paths, ¬disk.Overlong path) ∧
      missingPaths disk paths = .ok (paths.filter fun path => !decide (disk.Leads path)) := by
  let test (path : String) : Except Failure Bool :=
    ((disk.isThere (Path.ofText path).text).mapError .system).map (!·)
  have failing (path : String) (long : disk.Overlong path) :
      test path = .error (.system (.refused .tooLong (Path.ofText path).text)) := by
    simp only [test, isThere_overlong long]
    rfl
  have tested (path : String) (short : ¬disk.Overlong path) :
      test path = .ok !decide (disk.Leads path) := by
    simp only [test, isThere_of_not_overlong short]
    rfl
  have same : missingPaths disk paths = (paths.filterAuxM test []).map List.reverse := by
    let whole (test : String → Except Failure Bool) := (paths.filterAuxM test []).map List.reverse
    refine congrArg whole (funext fun path => ?_)
    simp only [test]
    cases disk.isThere (Path.ofText path).text <;> rfl
  rw [same]
  rcases filterAuxM_cases failing tested paths [] with
    ⟨earlier, first, later, split, fine, wrong, failed⟩ | ⟨fine, done⟩
  · exact .inl ⟨earlier, first, later, split, fine, wrong, congrArg _ failed⟩
  · refine .inr ⟨fine, (congrArg _ done).trans ?_⟩
    simp [Except.map]

/-- The first path whose host cannot be one is complained of, or uploads are made of all. -/
theorem buildUploads_cases (paths : Named String) :
    (∃ earlier id path later fault, paths = earlier ++ (id, path) :: later ∧
      (∀ entry ∈ earlier, Address.check entry.2 = .ok ()) ∧ Address.check path = .error fault ∧
      buildUploads paths = .error (.argument (.host fault))) ∨
    (∀ entry ∈ paths, Address.check entry.2 = .ok ()) ∧ buildUploads paths = .ok (uploadsOf paths) := by
  let test (entry : String × String) : Except Failure Unit := checkAddress entry.2
  have same : buildUploads paths =
      (paths.mapM test).map (fun _ => ()) >>= fun _ => .ok (uploadsOf paths) := by
    rw [← forM_eq_mapM]
    rfl
  have fits {entry : String × String} {found : Unit} (tested : test entry = .ok found) :
      Address.check entry.2 = .ok () := by
    simpa [test, checkAddress] using tested
  rw [same]
  rcases mapM_cases test paths with
    ⟨earlier, ⟨id, path⟩, later, failure, split, fine, wrong, failed⟩ | ⟨results, each, done⟩
  · cases checked : Address.check path with
    | ok _ => simp [test, checkAddress, checked, Except.mapError] at wrong
    | error fault =>
      have named : test (id, path) = .error (.argument (.host fault)) := by
        simp [test, checkAddress, checked, Except.mapError]
      obtain rfl := Except.error.inj (named.symm.trans wrong)
      refine .inl ⟨earlier, id, path, later, fault, split, fun entry member => ?_, checked, ?_⟩
      · exact (fine entry member).elim fun _ => fits
      · rw [failed]
        rfl
  · have both := each.imp fun entry _ tested => And.intro (fits tested) tested
    refine .inr ⟨((List.forall₂_and_left paths results).mp both).1, ?_⟩
    rw [done]
    rfl

end Files

section Manifest

variable {entries : List (Value × Value)} {declared resolved : Named String}

/-- The document in a file. -/
def documentAt (path : String) (disk : Disk) : Except Failure Value := do
  if path.toList.contains '\x00' then throw (.argument .nullByte)
  let content ← (disk.read path).mapError fun refusal => .system (.refused refusal path)
  match Text.decodeUtf8? content with
  | none => throw .notEncoded
  | some text => Yaml.read (Text.unifyNewlines text.toList)

theorem documentAt_eq_ok {content : Bytes} {text : String} {value : Value}
    (plain : path.toList.contains '\x00' = false) (read : disk.read path = .ok content)
    (decoded : Text.decodeUtf8? content = some text)
    (document : Yaml.read (Text.unifyNewlines text.toList) = .ok value) :
    documentAt path disk = .ok value := by
  simp only [documentAt, plain, read, Except.mapError, bind, Except.bind, decoded, document]
  rfl

theorem ManifestFile.load_eq (path : String) (disk : Disk) :
    load path disk = documentAt path disk >>= ofValue := by
  simp only [load, documentAt]
  split
  · rfl
  · cases disk.read path with
    | error refusal => rfl
    | ok content =>
      simp only [Except.mapError, bind, Except.bind]
      cases Text.decodeUtf8? content <;> rfl

/-- Texts by names as a raw value has them. -/
def rawTexts (texts : Named String) : List (Value × Value) :=
  texts.map fun (name, text) => (.text name, .text text)

/-- A manifest file whose assets are texts, each id once, and no variable in their paths is unknown. -/
structure DeclaresAssets (path : String) (disk : Disk) (entries : List (Value × Value))
    (declared resolved : Named String) : Prop where
  document : documentAt path disk = .ok (.map entries)
  assets : entriesOrEmpty (Value.field entries "assets") = .ok (rawTexts declared)
  distinct : (declared.map Prod.fst).Nodup
  known : List.Forall₂ (fun asset found => found.1 = asset.1 ∧
    PathVariable.resolve (.ofValue (Value.field entries "paths")) asset.2 = .ok found.2)
      declared resolved

theorem DeclaresAssets.names (declares : DeclaresAssets path disk entries declared resolved) :
    resolved.map Prod.fst = declared.map Prod.fst := by
  have known := declares.known
  clear declares
  induction known with
  | nil => rfl
  | cons first _ ih => rw [List.map_cons, List.map_cons, ih, first.1]

theorem resolvePaths_known {lookup : PathVariable.Variables}
    (distinct : (resolved.map Prod.fst).Nodup)
    (known : List.Forall₂ (fun asset found => found.1 = asset.1 ∧
      PathVariable.resolve lookup asset.2 = .ok found.2) declared resolved) :
    resolvePaths lookup (rawTexts declared) = .ok resolved := by
  let read (entry : Value × Value) : Except Failure (String × String) := do
    return (← plainText entry.1, ← PathVariable.resolve lookup (← plainText entry.2))
  have pairs : (rawTexts declared).mapM read = .ok resolved := by
    clear distinct
    induction known with
    | nil => rfl
    | @cons asset found _ _ first _ ih =>
      have here : read (.text asset.1, .text asset.2) = .ok found := by
        show (do return (asset.1, ← PathVariable.resolve lookup asset.2)) = _
        rw [first.2, ← first.1]
        rfl
      rw [rawTexts, List.map_cons, List.mapM_cons, here, ← rawTexts, ih]
      rfl
  have same : Named.ofList resolved = resolved := Named.over_of_nodup (by simpa using distinct)
  show (do return Named.ofList (← (rawTexts declared).mapM read)) = _
  rw [pairs]
  exact congrArg Except.ok same

theorem DeclaresAssets.load (declares : DeclaresAssets path disk entries declared resolved) :
    ManifestFile.load path disk = .ok ⟨entries, resolved⟩ := by
  have resolves := resolvePaths_known (declares.names ▸ declares.distinct) declares.known
  rw [ManifestFile.load_eq, declares.document]
  show ManifestFile.ofValue (.map entries) = _
  rw [ManifestFile.ofValue, declares.assets]
  show (do return ManifestFile.mk entries (← resolvePaths _ (rawTexts declared))) = _
  rw [resolves]
  rfl

/-- An entry of a raw value other than the one under a name. -/
def isOther (name : String) (entry : Value × Value) : Bool := !entry.1.sameKey (.text name)

theorem filter_setEntry (name : String) (value : Value) (entries : List (Value × Value)) :
    (Value.setEntry (.text name) value entries).filter (isOther name) =
      entries.filter (isOther name) := by
  have own (present : Value) (same : present.sameKey (.text name) = true) (content : Value) :
      isOther name (present, content) = false := by rw [isOther, same, Bool.not_true]
  induction entries with
  | nil => rw [Value.setEntry, List.filter_cons_of_neg (by
      rw [own _ (Value.sameKey_text.mpr rfl)]; exact Bool.false_ne_true)]
  | cons entry rest ih =>
    obtain ⟨present, old⟩ := entry
    rw [Value.setEntry]
    split
    · rename_i same
      simp only [List.filter_cons, own present same, Bool.false_eq_true, if_false]
    · rw [List.filter_cons, List.filter_cons, ih]

/-- What comes of a manifest with its assets and those set over them. The first path that is too long
is complained of; then all those that lead nowhere; then the first that cannot be an address; and if
nothing is wrong, each asset is an upload of its file, and in the manifest only the assets have changed. -/
inductive AssetsLoaded (disk : Disk) (entries : List (Value × Value)) (resolved paths : Named String) :
    Except Failure (Value × Named Upload) → Prop where
  | overlong {earlier later : Named String} {id path : String}
      (split : paths = earlier ++ (id, path) :: later)
      (first : ∀ entry ∈ earlier, ¬disk.Overlong entry.2) (long : disk.Overlong path) :
      AssetsLoaded disk entries resolved paths
        (.error (.system (.refused .tooLong (Path.ofText path).text)))
  | missing (short : ∀ entry ∈ paths, ¬disk.Overlong entry.2)
      (some : ∃ entry ∈ paths, ¬disk.Leads entry.2) :
      AssetsLoaded disk entries resolved paths (.error (.system (.absent (missingMessage
        ((paths.map Prod.snd).filter fun path => !decide (disk.Leads path))))))
  | misread {earlier later : Named String} {id path : String} {fault : HostFault}
      (there : ∀ entry ∈ paths, disk.Leads entry.2)
      (split : paths = earlier ++ (id, path) :: later)
      (first : ∀ entry ∈ earlier, Address.check entry.2 = .ok ())
      (faulty : Address.check path = .error fault) :
      AssetsLoaded disk entries resolved paths (.error (.argument (.host fault)))
  | loaded {left : List (Value × Value)} (there : ∀ entry ∈ paths, disk.Leads entry.2)
      (hosts : ∀ entry ∈ paths, Address.check entry.2 = .ok ())
      (assets : Value.field left "assets" = .map (rawTexts resolved))
      (others : left.filter (isOther "assets") = entries.filter (isOther "assets")) :
      AssetsLoaded disk entries resolved paths (.ok (.map left, uploadsOf paths))

/-- What is left to do once it is known which assets count. -/
def ManifestFile.fetch (file : ManifestFile) (disk : Disk) (paths : Named String) :
    Except Failure (Value × Named Upload) := do
  match ← missingPaths disk (paths.map Prod.snd) with
  | [] => return (file.value, ← buildUploads paths)
  | missing => throw (.system (.absent (missingMessage missing)))

theorem ManifestFile.fetch_loads (disk : Disk) (entries : List (Value × Value))
    (resolved paths : Named String) :
    AssetsLoaded disk entries resolved paths (fetch ⟨entries, resolved⟩ disk paths) := by
  rw [fetch]
  rcases missingPaths_cases disk (paths.map Prod.snd) with
    ⟨earlier, first, later, split, short, long, failed⟩ | ⟨short, listed⟩
  · obtain ⟨before, rest, rfl, rfl, named⟩ := List.map_eq_append_iff.mp split
    obtain ⟨⟨id, path⟩, after, rfl, rfl, rfl⟩ := List.map_eq_cons_iff.mp named
    rw [failed]
    exact .overlong rfl (fun entry member => short entry.2 (List.mem_map_of_mem member)) long
  have each (entry : String × String) (member : entry ∈ paths) : ¬disk.Overlong entry.2 :=
    short entry.2 (List.mem_map_of_mem member)
  rw [listed]
  by_cases there : ∀ entry ∈ paths, disk.Leads entry.2
  · have none : ((paths.map Prod.snd).filter fun path => !decide (disk.Leads path)) = [] := by
      rw [List.filter_eq_nil_iff, List.forall_mem_map]
      exact fun entry member => by simpa using there entry member
    rw [none]
    show AssetsLoaded disk entries resolved paths (do return (value _, ← buildUploads paths))
    rcases buildUploads_cases paths with
      ⟨earlier, id, path, later, fault, split, fine, faulty, failed⟩ | ⟨hosts, built⟩
    · rw [failed]
      exact .misread there split fine faulty
    · rw [built]
      refine .loaded there hosts ?_ (filter_setEntry _ _ _)
      rw [Value.field_setEntry, if_pos rfl]
      rfl
  · obtain ⟨entry, member, lacking⟩ : ∃ entry ∈ paths, ¬disk.Leads entry.2 := by
      simpa using there
    have kept : entry.2 ∈ (paths.map Prod.snd).filter fun path => !decide (disk.Leads path) :=
      List.mem_filter.mpr ⟨List.mem_map_of_mem member, by simpa using lacking⟩
    have missing := @AssetsLoaded.missing disk entries resolved paths each ⟨entry, member, lacking⟩
    generalize ((paths.map Prod.snd).filter fun path => !decide (disk.Leads path)) = absent
      at kept missing ⊢
    cases absent with
    | nil => cases kept
    | cons _ _ => exact missing

theorem DeclaresAssets.loadComposition_eq
    (declares : DeclaresAssets path disk entries declared resolved) (overrides : List String) :
    loadComposition path overrides disk = readAssetArguments overrides >>= fun named =>
      ManifestFile.fetch ⟨entries, resolved⟩ disk (resolved.over named) := by
  rw [loadComposition, declares.load]
  rfl

/-- Of a manifest file whose assets are texts with known variables, and assets that a caller names: the
first malformed argument is complained of. If there is none, the assets are those of the manifest and,
after them, the new ones in the order in which they first appear, each with the last path that the
caller gives it or else its own. -/
theorem loadComposition_overrides (declares : DeclaresAssets path disk entries declared resolved)
    (overrides : List String) :
    ((∃ argument ∈ overrides, MalformedArgument argument) →
      ∃ earlier first later, overrides = earlier ++ first :: later ∧
        (∀ argument ∈ earlier, ¬MalformedArgument argument) ∧ MalformedArgument first ∧
        loadComposition path overrides disk = .error (.argument (.assetArgument first))) ∧
    ((∀ argument ∈ overrides, ¬MalformedArgument argument) →
      ∃ named paths, List.Forall₂ IsAssetArgument overrides named ∧
        paths.map Prod.fst = declared.map Prod.fst ++
          ((named.map Prod.fst).filter (· ∉ declared.map Prod.fst)).eraseDups ∧
        (∀ id, paths.get? id = (named.reverse.lookup id).or (resolved.get? id)) ∧
        AssetsLoaded disk entries resolved paths (loadComposition path overrides disk)) := by
  rw [declares.loadComposition_eq]
  rcases readAssetArguments_cases overrides with
    ⟨earlier, first, later, split, fine, malformed, failed⟩ | ⟨named, wellFormed, each, read⟩
  · refine ⟨fun _ => ⟨earlier, first, later, split, fine, malformed, ?_⟩, fun wellFormed => ?_⟩
    · rw [failed]
      rfl
    · exact absurd malformed (wellFormed first (split ▸ by simp))
  · refine ⟨fun ⟨argument, member, malformed⟩ => absurd malformed (wellFormed argument member),
      fun _ => ⟨named, resolved.over (Named.ofList named), each, ?_, ?_, ?_⟩⟩
    · rw [Named.names_over_ofList, declares.names]
    · exact Named.get?_over_ofList resolved named
    · rw [read]
      exact ManifestFile.fetch_loads disk entries resolved _

/-- Where the manifest has no assets, a sole argument with a path that is too long fails for that path. -/
theorem DeclaresAssets.loadComposition_overlong
    (declares : DeclaresAssets path disk entries [] []) {argument : String}
    {asset : String × String} (read : readAssetArgument argument = .ok asset)
    (long : disk.Overlong asset.2) :
    loadComposition path [argument] disk =
      .error (.system (.refused .tooLong (Path.ofText asset.2).text)) := by
  have named : readAssetArguments [argument] = .ok [asset] := by
    rw [readAssetArguments, List.mapM_cons, read]
    rfl
  have alone : Named.over [] [asset] = [asset] := rfl
  simp only [declares.loadComposition_eq, named, bind, Except.bind, alone]
  have sole : asset ∈ [asset] := List.mem_singleton_self _
  have loads := ManifestFile.fetch_loads disk entries [] [asset]
  generalize ManifestFile.fetch ⟨entries, []⟩ disk [asset] = outcome at loads
  cases loads with
  | @overlong earlier _ _ _ split _ _ =>
    cases earlier with
    | nil => obtain ⟨rfl, rfl⟩ := List.cons.inj split; rfl
    | cons _ _ => simp at split
  | missing short _ => exact absurd long (short _ sole)
  | misread there _ _ _ => exact absurd long (there _ sole).short
  | loaded there _ _ _ => exact absurd long (there _ sole).short

end Manifest

/-- A disk with a manifest and some other files, all empty. -/
def furnishedDisk (manifest : String) (files : List String) : Disk :=
  ⟨(["m.json"], .file (Text.encodeUtf8 manifest)) :: files.map fun name => ([name], .file []), [], []⟩

/-- A manifest with two assets, the path of one with a variable. -/
def pairedManifest : String :=
  "\x7b\"paths\": \x7b\"m\": \"d\"\x7d, \"assets\": \x7b\"v\": \"$\x7bm\x7d.mp4\", \"w\": \"w.png\"\x7d\x7d"

/-- A disk where the second asset of the manifest is missing. -/
def pairedDisk : Disk := furnishedDisk pairedManifest ["d.mp4", "n.png", "y.png"]

theorem pairedDisk_declares : DeclaresAssets "m.json" pairedDisk
    [(.text "paths", .map [(.text "m", .text "d")]),
      (.text "assets", .map [(.text "v", .text "$\x7bm\x7d.mp4"), (.text "w", .text "w.png")])]
    [("v", "$\x7bm\x7d.mp4"), ("w", "w.png")] [("v", "d.mp4"), ("w", "w.png")] where
  document := @documentAt_eq_ok pairedDisk "m.json" (Text.encodeUtf8 pairedManifest) pairedManifest _
    (by decide) (by rfl) (by decide +kernel) (by cbv)
  assets := rfl
  distinct := by decide
  known := .cons ⟨rfl, by decide +kernel⟩ (.cons ⟨rfl, by decide +kernel⟩ .nil)

theorem pairedDisk_overridden :
    (∃ earlier first later, ["w=y.png", "n"] = earlier ++ first :: later ∧
      (∀ argument ∈ earlier, ¬MalformedArgument argument) ∧ MalformedArgument first ∧
      loadComposition "m.json" ["w=y.png", "n"] pairedDisk =
        .error (.argument (.assetArgument first))) ∧
    ∃ named paths, List.Forall₂ IsAssetArgument ["w=x.png", " n = n.png", "w=y.png"] named ∧
      paths.map Prod.fst = ["v", "w"] ++
        ((named.map Prod.fst).filter (· ∉ ["v", "w"])).eraseDups ∧
      (∀ id, paths.get? id = (named.reverse.lookup id).or
        (Named.get? [("v", "d.mp4"), ("w", "w.png")] id)) ∧
      AssetsLoaded pairedDisk
        [(.text "paths", .map [(.text "m", .text "d")]),
          (.text "assets", .map [(.text "v", .text "$\x7bm\x7d.mp4"), (.text "w", .text "w.png")])]
        [("v", "d.mp4"), ("w", "w.png")] paths
        (loadComposition "m.json" ["w=x.png", " n = n.png", "w=y.png"] pairedDisk) := by
  have fine : ∀ argument ∈ ["w=x.png", " n = n.png", "w=y.png"], ¬MalformedArgument argument := by
    have first : readAssetArgument "w=x.png" = .ok ("w", "x.png") := by decide +kernel
    have second : readAssetArgument " n = n.png" = .ok ("n", "n.png") := by decide +kernel
    have third : readAssetArgument "w=y.png" = .ok ("w", "y.png") := by decide +kernel
    simp only [List.forall_mem_cons]
    exact ⟨not_malformed_of_read first, not_malformed_of_read second, not_malformed_of_read third,
      nofun⟩
  exact ⟨(loadComposition_overrides pairedDisk_declares _).1
      ⟨"n", List.mem_cons_of_mem _ List.mem_cons_self, .inl (by decide)⟩,
    (loadComposition_overrides pairedDisk_declares _).2 fine⟩

/-- More characters than a name can have. -/
def longCharacters : List Char := .replicate 300 'x'

/-- A name of that many characters. -/
def longName : String := .ofList longCharacters

theorem longName_toList : longName.toList = longCharacters := String.toList_ofList

theorem longName_lacks {character : Char} (other : character ≠ 'x') :
    character ∉ longName.toList := by
  rw [longName_toList]
  exact fun member => other (List.eq_of_mem_replicate member)

theorem longName_ne {text : String} (other : text.toList ≠ longCharacters) : longName ≠ text := by
  rintro rfl
  exact other longName_toList

theorem longName_plain : PlainName longName where
  named := longName_ne (by decide +kernel)
  slashless := longName_lacks (by decide)
  noDot := longName_ne (by decide +kernel)
  noDots := longName_ne (by decide +kernel)

theorem readAssetArgument_longName :
    readAssetArgument ("a=" ++ longName) = .ok ("a", longName) := by
  have split : ("a=" ++ longName).toList = ['a'] ++ '=' :: longCharacters := by
    rw [String.toList_append, longName_toList]
    rfl
  have trimmed : Text.trimList longCharacters = longCharacters := by decide +kernel
  have full : longCharacters.isEmpty = false := by decide +kernel
  have own : Text.trim (.ofList longCharacters) = longName := by
    rw [Text.trim, String.toList_ofList, trimmed, longName]
  rw [readAssetArgument_split split (by decide), own, Text.isBlankText, Text.isBlankText,
    String.toList_ofList, String.toList_ofList, trimmed, full]
  rfl

/-- A manifest without assets. -/
def bareDisk : Disk := furnishedDisk "\x7b\x7d" []

theorem bareDisk_declares : DeclaresAssets "m.json" bareDisk [] [] [] where
  document := @documentAt_eq_ok bareDisk "m.json" (Text.encodeUtf8 "\x7b\x7d") "\x7b\x7d" _
    (by decide) (by rfl) (by decide +kernel) (by cbv)
  assets := rfl
  distinct := List.nodup_nil
  known := .nil

/-- A path that is too long leads nowhere, but it is not listed as missing. -/
theorem longName_unlisted :
    ¬MalformedArgument ("a=" ++ longName) ∧ ¬bareDisk.Leads longName ∧
      loadComposition "m.json" ["a=" ++ longName] bareDisk =
        .error (.system (.refused .tooLong longName)) := by
  have long : Disk.maxNameBytes < longName.utf8ByteSize := by decide +kernel
  obtain ⟨text, overlong⟩ := @Disk.overlong_of_plain bareDisk longName longName_plain
    (longName_lacks (by decide)) rfl long
  have loads := bareDisk_declares.loadComposition_overlong readAssetArgument_longName overlong
  exact ⟨not_malformed_of_read readAssetArgument_longName, fun leads => leads.short overlong,
    loads.trans (by rw [text])⟩

end Montage
