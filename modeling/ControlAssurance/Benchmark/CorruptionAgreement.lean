import ControlAssurance.Benchmark.CorruptionVerifier
import ControlAssurance.Lib.Success

/-!
# The producer and the verifier of a corruption agree

The two interpreters differ in how they find the parent of a target (the producer writes its
pointer out again), in the order in which they read, and in every error text. They are `Alike` on
each step, so the bytes the producer writes are the ones the verifier expects, and nothing else
passes: the verifier pins every member of the snapshot.
-/

namespace ControlAssurance.Benchmark

open Lib Cab

variable {ν : Type} {R : CabRuntime ν}

/-! ## Pointers -/

theorem replacePair_cons_ne {a b c x : Char} (h : x ≠ a) (l : List Char) :
    replacePair a b c (x :: l) = x :: replacePair a b c l := by
  cases l with
  | nil => rfl
  | cons y l =>
    rw [replacePair, if_neg fun hx => h hx.1]

/-- What escaping makes of one character. -/
def escapeChar (c : Char) : List Char :=
  if c = '~' then ['~', '0'] else if c = '/' then ['~', '1'] else [c]

theorem escapeToken_eq (token : List Char) : escapeToken token = token.flatMap escapeChar := by
  unfold escapeToken replaceChar
  rw [List.flatMap_assoc]
  refine List.flatMap_congr fun c _ => ?_
  unfold escapeChar
  by_cases htilde : c = '~'
  · rw [if_pos htilde, if_pos htilde]
    decide
  · rw [if_neg htilde, if_neg htilde, List.flatMap_cons, List.flatMap_nil, List.append_nil]

theorem escapeToken_noSlash (token : List Char) : '/' ∉ escapeToken token := by
  rw [escapeToken_eq]
  intro hmem
  obtain ⟨c, -, hc⟩ := List.mem_flatMap.mp hmem
  unfold escapeChar at hc
  by_cases htilde : c = '~'
  · rw [if_pos htilde] at hc
    exact absurd hc (by decide)
  · rw [if_neg htilde] at hc
    by_cases hslash : c = '/'
    · rw [if_pos hslash] at hc
      exact absurd hc (by decide)
    · rw [if_neg hslash, List.mem_singleton] at hc
      exact hslash hc.symm

/-- The first replacement of unescaping leaves only the tildes escaped. -/
theorem unescape_first (token : List Char) :
    replacePair '~' '1' '/' (token.flatMap escapeChar)
      = token.flatMap fun c => if c = '~' then ['~', '0'] else [c] := by
  induction token with
  | nil => rfl
  | cons c token ih =>
    rw [List.flatMap_cons, List.flatMap_cons, ← ih]
    unfold escapeChar
    by_cases htilde : c = '~'
    · rw [if_pos htilde, if_pos htilde]
      simp only [List.cons_append, List.nil_append]
      rw [replacePair, if_neg (by decide), replacePair_cons_ne (by decide)]
    · rw [if_neg htilde, if_neg htilde]
      by_cases hslash : c = '/'
      · rw [if_pos hslash, hslash]
        simp only [List.cons_append, List.nil_append]
        rw [replacePair, if_pos ⟨rfl, rfl⟩]
      · rw [if_neg hslash]
        exact replacePair_cons_ne htilde _

theorem unescapeToken_escapeToken (token : List Char) :
    unescapeToken (escapeToken token) = token := by
  unfold unescapeToken
  rw [escapeToken_eq, unescape_first]
  induction token with
  | nil => rfl
  | cons c token ih =>
    rw [List.flatMap_cons]
    by_cases htilde : c = '~'
    · rw [if_pos htilde, htilde]
      simp only [List.cons_append, List.nil_append]
      rw [replacePair, if_pos ⟨rfl, rfl⟩, ih]
    · rw [if_neg htilde]
      simp only [List.cons_append, List.nil_append]
      rw [replacePair_cons_ne htilde, ih]

theorem pointerTokens_ne_nil (pointer : String) : pointerTokens pointer ≠ [] := by
  unfold pointerTokens
  rw [Ne, List.map_eq_nil_iff]
  exact List.splitOn_ne_nil _ _

/-- The pointer to the parent, written out and read again, is the path without its last token. -/
theorem parentTokens_eq (pointer : String) :
    Producer.parentTokens (pointerTokens pointer) = (pointerTokens pointer).dropLast := by
  unfold Producer.parentTokens
  have hne := pointerTokens_ne_nil pointer
  generalize pointerTokens pointer = tokens at hne
  by_cases hone : tokens.length = 1
  · rw [if_pos hone]
    obtain ⟨token, rfl⟩ := List.length_eq_one_iff.mp hone
    rfl
  · rw [if_neg hone]
    have hparents : tokens.dropLast ≠ [] := by
      intro hnil
      have hlen := congrArg List.length hnil
      rw [List.length_dropLast, List.length_nil] at hlen
      have hpos := List.length_pos_iff.mpr hne
      omega
    unfold pointerTokens
    rw [String.toList_ofList, List.drop_one, List.tail_cons, List.splitOn_intercalate, List.map_map]
    · conv_rhs => rw [← List.map_id tokens.dropLast]
      refine List.map_congr_left fun token _ => ?_
      show String.ofList (unescapeToken (escapeToken token.toList)) = token
      rw [unescapeToken_escapeToken, String.ofList_toList]
    · intro escaped hmem
      obtain ⟨token, -, rfl⟩ := List.mem_map.mp hmem
      exact escapeToken_noSlash _
    · rw [Ne, List.map_eq_nil_iff]
      exact hparents

/-! ## Walking and changing -/

theorem arrayIndex_alike (notNumeric outside notNumeric' outside' : String) (length : Nat)
    (token : String) :
    Alike (arrayIndex R notNumeric outside length token)
      (arrayIndex R notNumeric' outside' length token) :=
  alike_bind (alike_expect _ _ _) fun _ =>
    alike_bind (alike_require Iff.rfl _ _) fun _ => alike_refl _

theorem child_alike (texts texts' : WalkTexts) (current : Json ν) (token : String) :
    Alike (child R texts current token) (child R texts' current token) := by
  cases current with
  | object members => exact alike_expect _ _ _
  | array items =>
    exact alike_bind (arrayIndex_alike _ _ _ _ _ _) fun _ => alike_expect _ _ _
  | _ => exact alike_error _ _

theorem walk_alike (texts texts' : WalkTexts) (tokens : List String) (document : Json ν) :
    Alike (walk R texts tokens document) (walk R texts' tokens document) :=
  alike_foldlM (child_alike texts texts') tokens document

theorem putChild_alike (texts texts' : WalkTexts) (current : Json ν) (token : String)
    (value : Json ν) :
    Alike (putChild R texts current token value) (putChild R texts' current token value) := by
  cases current with
  | object members => exact alike_refl _
  | array items =>
    exact alike_bind (arrayIndex_alike _ _ _ _ _ _) fun _ => alike_refl _
  | _ => exact alike_error _ _

variable {change change' : Json ν → Except String (Json ν)} {records : List (Json ν)}
  {spec : FrozenCorruptionSpec ν}

theorem walkUpdate_alike (texts texts' : WalkTexts) (h : ∀ v, Alike (change v) (change' v))
    (tokens : List String) (document : Json ν) :
    Alike (walkUpdate R texts change tokens document)
      (walkUpdate R texts' change' tokens document) := by
  induction tokens generalizing document with
  | nil => exact h document
  | cons token tokens ih =>
    exact alike_bind (child_alike _ _ _ _) fun value =>
      alike_bind (ih value) fun changed => putChild_alike _ _ _ _ _

theorem assignMember_alike (texts texts' : ChangeTexts) (token : String) (value current : Json ν) :
    Alike (assignMember R texts token value current)
      (assignMember R texts' token value current) := by
  cases current with
  | object members => exact alike_bind (alike_require Iff.rfl _ _) fun _ => alike_refl _
  | array items =>
    exact alike_bind (arrayIndex_alike _ _ _ _ _ _) fun _ => alike_refl _
  | _ => exact alike_error _ _

theorem deleteMember_alike (texts texts' : ChangeTexts) (token : String) (current : Json ν) :
    Alike (deleteMember R texts token current) (deleteMember R texts' token current) := by
  cases current with
  | object members => exact alike_bind (alike_require Iff.rfl _ _) fun _ => alike_refl _
  | array items =>
    exact alike_bind (arrayIndex_alike _ _ _ _ _ _) fun _ => alike_refl _
  | _ => exact alike_error _ _

theorem deleteItem_alike (notArray outside notArray' outside' : String) (index : Nat)
    (current : Json ν) :
    Alike (deleteItem notArray outside index current)
      (deleteItem notArray' outside' index current) := by
  cases current with
  | array items => exact alike_bind (alike_require Iff.rfl _ _) fun _ => alike_refl _
  | _ => exact alike_error _ _

theorem tokens_eq (pointer : JsonPointer) :
    Verifier.tokens pointer.text = .ok (pointerTokens pointer.text) := by
  unfold Verifier.tokens
  rw [require_pos pointer.absolute]
  rfl

theorem get_alike (document : Json ν) (pointer : JsonPointer) :
    Alike (Producer.pointerGet R document pointer.text)
      (Verifier.getPointer R document pointer.text) := by
  unfold Verifier.getPointer
  rw [tokens_eq]
  exact walk_alike _ _ _ _

/-- The producer's way to the parent is the verifier's. -/
theorem changeParent_alike (document : Json ν) (pointer : JsonPointer)
    {change change' : String → Json ν → Except String (Json ν)}
    (h : ∀ token v, Alike (change token v) (change' token v)) :
    Alike (Producer.changeParent R document pointer.text change)
      (Verifier.changeParent R document pointer.text change') := by
  unfold Producer.changeParent Verifier.changeParent
  rw [tokens_eq]
  dsimp only
  rw [ok_bind, parentTokens_eq]
  exact alike_bind (alike_expect _ _ _) fun token => walkUpdate_alike _ _ (h token) _ _

theorem set_alike (document : Json ν) (pointer : JsonPointer) (value : Json ν) :
    Alike (Producer.pointerSet R document pointer.text value)
      (Verifier.setPointer R document pointer.text value) :=
  changeParent_alike document pointer fun _ _ => assignMember_alike _ _ _ _ _

theorem remove_alike (document : Json ν) (pointer : JsonPointer) :
    Alike (Producer.pointerRemove R document pointer.text)
      (Verifier.removePointer R document pointer.text) :=
  changeParent_alike document pointer fun _ _ => deleteMember_alike _ _ _ _

/-! ## Records -/

theorem record_alike (records : List (Json ν)) (key : String) (allowRoot : Bool) :
    Alike (Producer.record records key allowRoot) (Verifier.select records key allowRoot) := by
  unfold Producer.record Verifier.select selectRecord
  by_cases hroot : key = rootRecordKey
  · rw [if_pos hroot, if_pos hroot]
    exact alike_bind (alike_require Iff.rfl _ _) fun _ => alike_refl _
  · rw [if_neg hroot, if_neg hroot]
    split
    · exact alike_refl _
    · exact alike_error _ _

theorem readRecord_alike (records : List (Json ν)) (i : Nat) (pointer : JsonPointer) :
    Alike (Producer.readRecord R records i pointer.text)
      (Verifier.readRecord R records i pointer.text) :=
  alike_bind (alike_refl _) fun record => get_alike record pointer

theorem updateRecord_alike (records : List (Json ν)) (i : Nat)
    (h : ∀ v, Alike (change v) (change' v)) :
    Alike (updateRecord records i change) (updateRecord records i change') :=
  alike_bind (alike_refl _) fun record => alike_bind (h record) fun _ => alike_refl _

/-- The recipe has one meaning. The producer has already read the target when it starts; the
verifier reads it again where it needs it. -/
theorem applyRecipe_alike (spec : FrozenCorruptionSpec ν) (allowRoot : Bool) {target : Nat}
    {beforeValue : Json ν}
    (hbefore : Producer.readRecord R records target spec.targetFieldPath.text = .ok beforeValue) :
    Alike (Producer.applyRecipe R spec allowRoot target beforeValue records)
      (Verifier.applyRecipe R spec allowRoot target records) := by
  have hread : Verifier.readRecord R records target spec.targetFieldPath.text = .ok beforeValue :=
    (readRecord_alike records target spec.targetFieldPath beforeValue).mp hbefore
  unfold Producer.applyRecipe Verifier.applyRecipe
  dsimp only
  cases spec.recipe with
  | replace replacement =>
    exact updateRecord_alike _ _ fun v => set_alike v spec.targetFieldPath replacement
  | remove => exact updateRecord_alike _ _ fun v => remove_alike v spec.targetFieldPath
  | removeArrayItem index =>
    refine updateRecord_alike _ _ fun v => ?_
    rw [tokens_eq, ok_bind]
    exact walkUpdate_alike _ _ (fun v => deleteItem_alike _ _ _ _ _ v) _ _
  | copyFromRecord donorKey donorPath =>
    refine alike_bind (record_alike records donorKey allowRoot) fun donor => ?_
    rw [hread, ok_bind]
    refine alike_bind (readRecord_alike records donor donorPath) fun donorValue => ?_
    exact updateRecord_alike _ _ fun v => set_alike v spec.targetFieldPath donorValue
  | swapWithRecord donorKey donorPath =>
    refine alike_bind (record_alike records donorKey allowRoot) fun donor => ?_
    rw [hread, ok_bind]
    refine alike_bind (readRecord_alike records donor donorPath) fun donorValue => ?_
    refine alike_bind (updateRecord_alike _ _ fun v => set_alike v spec.targetFieldPath donorValue)
      fun records' => ?_
    exact updateRecord_alike _ _ fun v => set_alike v donorPath beforeValue

variable {mutated payload : Bytes} {ordered source : Entries}

/-- The records the producer loads, the verifier loads too. -/
theorem loadRecords_ok {path : String} {isJsonl : Bool}
    (h : Producer.loadRecords R path payload = .ok (records, isJsonl)) :
    isJsonl = isJsonlPath path ∧ Verifier.loadRecords R (isJsonlPath path) payload = .ok records := by
  unfold Producer.loadRecords at h
  unfold Verifier.loadRecords
  by_cases hlines : isJsonlPath path = true
  · rw [if_pos hlines, bind_eq_ok] at h
    obtain ⟨loaded, hloaded, heq⟩ := h
    cases heq
    rw [if_pos hlines]
    exact ⟨hlines.symm, hloaded⟩
  · rw [if_neg hlines] at h
    simp only [bind_eq_ok, require_eq_ok, exists_and_left, exists_const] at h
    obtain ⟨document, hloaded, canonical, -, -, heq⟩ := h
    rw [if_neg hlines, hloaded, ok_bind]
    cases document with
    | object members =>
      cases heq
      exact ⟨(Bool.not_eq_true _).mp hlines |>.symm, rfl⟩
    | _ => cases heq

/-- **One mutation, two interpreters**: what the producer makes of the target is what the verifier
expects there. -/
theorem independentTargetMutation_ok
    {records' : List (Json ν)} {isJsonl : Bool} {before after : Bytes}
    (hload : Producer.loadRecords R spec.targetArtifactPath payload = .ok (records, isJsonl))
    (hmutate : Producer.mutateRecords R records spec (!isJsonl) = .ok (records', before, after))
    (hbytes : Producer.recordsBytes R records' isJsonl = .ok mutated) :
    Verifier.independentTargetMutation R payload spec = .ok mutated := by
  obtain ⟨hlines, hloaded⟩ := loadRecords_ok hload
  unfold Producer.mutateRecords at hmutate
  simp only [bind_eq_ok] at hmutate
  obtain ⟨target, htarget, beforeValue, hbefore, changed, hchanged, _, -, _, -, heq⟩ := hmutate
  cases heq
  subst hlines
  unfold Verifier.independentTargetMutation
  dsimp only
  rw [hloaded, ok_bind, (record_alike _ _ _ _).mp htarget, ok_bind,
    (applyRecipe_alike spec _ hbefore _).mp hchanged, ok_bind]
  exact hbytes

/-! ## Members in order -/

/-- Members that are in canonical order are put back as they are. -/
theorem orderedEntries_canonical {stored : Dict String Bytes} (h : CanonicalPaths stored.keys) :
    orderedEntries stored = .ok stored := by
  obtain ⟨paths, hpaths, hsorted, hnot⟩ := h
  cases stored with
  | nil => cases hpaths
  | cons first rest =>
    obtain ⟨hfirst, hrest⟩ := List.cons.inj hpaths
    have hfirst : first.1 = "bundle.json" := hfirst
    have hrest : rest.map Prod.fst = paths := hrest
    rw [← hrest] at hsorted hnot
    have hothers : ∀ e ∈ rest, e.1 ≠ "bundle.json" := fun e he heq =>
      hnot (heq ▸ List.mem_map_of_mem he)
    have hfilter : ((first :: rest).filter fun e => decide (e.1 ≠ "bundle.json")) = rest := by
      rw [List.filter_cons_of_neg (by simpa using hfirst)]
      exact List.filter_eq_self.mpr fun e he => decide_eq_true (hothers e he)
    have hsort : rest.mergeSort entryLe = rest := by
      refine List.mergeSort_of_pairwise ((List.pairwise_map.mp hsorted).imp fun hlt => ?_)
      exact decide_eq_true (Or.inl hlt)
    unfold orderedEntries
    rw [Dict.get?_cons, if_pos hfirst, hfilter, hsort, ← hfirst]
    rfl

theorem rebuildDescriptor_alike {stored : Dict String Bytes} {target : String}
    (h : stored.get? target = some payload) (file : BundleFile) :
    Alike (rebuildDescriptor R stored [target] file) (Verifier.rebuildOne R target payload file) := by
  unfold rebuildDescriptor Verifier.rebuildOne
  by_cases hpath : file.path = target
  · rw [if_pos (List.mem_singleton.mpr hpath), if_neg (not_not.mpr hpath), hpath, h]
    exact alike_refl _
  · rw [if_neg fun hmem => hpath (List.mem_singleton.mp hmem), if_pos hpath]
    exact alike_refl _

/-- The manifest that the producer rebuilds is the one the verifier rebuilds. -/
theorem rebuildManifest_ok {kept : Entries} {target : String} {manifest : Bytes}
    (hkept : CanonicalPaths (Dict.keys kept)) (hmanifest : Dict.get? kept "bundle.json" = some manifest)
    (htarget : Dict.get? kept target = some payload)
    (h : rebuildManifest R kept [target] = .ok ordered) :
    ∃ rebuilt, Verifier.manifestWithOneRebuiltDescriptor R manifest target payload = .ok rebuilt
      ∧ ordered = Dict.insert kept "bundle.json" rebuilt := by
  unfold rebuildManifest at h
  dsimp only at h
  rw [Dict.ofPairs_of_nodup hkept.nodup, hmanifest] at h
  simp only [expect, ok_bind, bind_eq_ok, require_eq_ok, exists_and_left, exists_const] at h
  obtain ⟨loaded, hloaded, files, hfiles, hlisted, _, hvalid, rebuilt, hbytes, hordered⟩ := h
  have hmem : "bundle.json" ∈ Dict.keys kept := Dict.get?_isSome.mp (by rw [hmanifest]; rfl)
  refine ⟨rebuilt, ?_, ?_⟩
  · unfold Verifier.manifestWithOneRebuiltDescriptor
    rw [hloaded, ok_bind,
      (alike_mapM (fun file _ => rebuildDescriptor_alike htarget file) files).mp hfiles, ok_bind,
      require_pos (hlisted target (List.mem_singleton.mpr rfl)), ok_bind]
    dsimp only
    rw [hvalid, ok_bind]
    exact hbytes
  · rw [orderedEntries_canonical] at hordered
    · exact (Except.ok.inj hordered).symm
    · rw [Dict.keys_insert_of_mem hmem]
      exact hkept

/-! ## What the verifier pins -/

/-- The manifest that the policy asks for. -/
def ExpectedManifest (R : CabRuntime ν) (source : Entries) (spec : FrozenCorruptionSpec ν)
    (expectedTarget manifest : Bytes) : Prop :=
  match spec.manifestPolicy with
  | .keep => Dict.get? source "bundle.json" = some manifest
  | .rebuild =>
    if spec.targetArtifactPath = "bundle.json" then manifest = expectedTarget
    else ∃ old, Dict.get? source "bundle.json" = some old
      ∧ Verifier.manifestWithOneRebuiltDescriptor R old spec.targetArtifactPath expectedTarget
        = .ok manifest

theorem ExpectedManifest.unique
    {expectedTarget m m' : Bytes} (h : ExpectedManifest R source spec expectedTarget m)
    (h' : ExpectedManifest R source spec expectedTarget m') : m = m' := by
  unfold ExpectedManifest at h h'
  cases hpolicy : spec.manifestPolicy with
  | keep =>
    rw [hpolicy] at h h'
    exact Option.some.inj (h.symm.trans h')
  | rebuild =>
    rw [hpolicy] at h h'
    dsimp only at h h'
    by_cases hroot : spec.targetArtifactPath = "bundle.json"
    · rw [if_pos hroot] at h h'
      exact h.trans h'.symm
    · rw [if_neg hroot] at h h'
      obtain ⟨old, hold, hm⟩ := h
      obtain ⟨old', hold', hm'⟩ := h'
      cases hold.symm.trans hold'
      exact Except.ok.inj (hm.symm.trans hm')

/-- The member of the one acceptable snapshot at a path. -/
def expectedMember (source : Entries) (spec : FrozenCorruptionSpec ν)
    (expectedTarget manifest : Bytes) (path : String) : Option Bytes :=
  if path = "bundle.json" then some manifest
  else if path = spec.targetArtifactPath then some expectedTarget
  else Dict.get? source path

/-- **What an accepted snapshot is**, member by member. -/
theorem inspect_ok {source : VerifiedBenchmarkCab} {corrupted : Bytes} {entries : Entries}
    (hsource : CanonicalPaths (Dict.keys source.entries))
    (h : Verifier.inspectExactMutation R source corrupted spec = .ok entries) :
    encodeSnapshotEntries entries = .ok corrupted ∧ Dict.keys source.entries = Dict.keys entries
      ∧ ∃ payload expectedTarget manifest,
        Dict.get? source.entries spec.targetArtifactPath = some payload
        ∧ Verifier.independentTargetMutation R payload spec = .ok expectedTarget
        ∧ ExpectedManifest R source.entries spec expectedTarget manifest
        ∧ ∀ path ∈ Dict.keys entries,
          Dict.get? entries path = expectedMember source.entries spec expectedTarget manifest path := by
  unfold Verifier.inspectExactMutation at h
  simp only [bind_eq_ok, require_eq_ok, exists_and_left, exists_const, expect_eq_ok] at h
  obtain ⟨decoded, hdecoded, encoded, hencoded, rfl, hkeys, payload, hpayload, expectedTarget,
    hexpected, htarget, hchanged, _, hcase, heq⟩ := h
  cases heq
  have hcanonical : CanonicalPaths (Dict.keys entries) := decode_canonical hdecoded
  have hmap := Dict.ofPairs_of_nodup hsource.nodup
  have hmap' := Dict.ofPairs_of_nodup hcanonical.nodup
  rw [hmap] at hpayload hchanged hcase
  rw [hmap'] at htarget hchanged hcase
  have hkeys : Dict.keys source.entries = Dict.keys entries := hkeys
  have hroot : "bundle.json" ∈ Dict.keys entries := by
    obtain ⟨rest, hrest, -⟩ := hcanonical
    rw [hrest]
    exact List.mem_cons_self ..
  -- Away from the manifest and the target, nothing has changed.
  have hothers : ∀ path ∈ Dict.keys entries, path ≠ "bundle.json" →
      path ≠ spec.targetArtifactPath → Dict.get? entries path = Dict.get? source.entries path := by
    intro path hpath hmanifest hother
    by_contra hdiffer
    have hmem : path ∈ (Verifier.changedMembers source.entries entries).toFinset := by
      rw [List.mem_toFinset]
      refine List.mem_filter.mpr ⟨hkeys ▸ hpath, decide_eq_true ⟨hmanifest, ?_⟩⟩
      exact fun heq => hdiffer heq.symm
    rw [hchanged] at hmem
    split at hmem
    · exact absurd hmem (Finset.notMem_empty _)
    · exact hother (Finset.mem_singleton.mp hmem)
  obtain ⟨manifest, hmanifest⟩ := Option.isSome_iff_exists.mp (Dict.get?_isSome.mpr hroot)
  refine ⟨hencoded, hkeys, payload, expectedTarget, manifest, hpayload, hexpected, ?_, ?_⟩
  · unfold ExpectedManifest
    cases hpolicy : spec.manifestPolicy with
    | keep =>
      rw [hpolicy] at hcase
      unfold Verifier.verifyManifestCase Verifier.verifyStaleManifestCase at hcase
      simp only [bind_eq_ok, require_eq_ok, exists_and_left, exists_const] at hcase
      exact hcase.1.symm.trans hmanifest
    | rebuild =>
      rw [hpolicy] at hcase
      unfold Verifier.verifyManifestCase Verifier.verifyRebuiltManifestCase at hcase
      rw [bind_eq_ok] at hcase
      obtain ⟨-, -, hrebuilt⟩ := hcase
      dsimp only
      by_cases htop : spec.targetArtifactPath = "bundle.json"
      · rw [if_pos htop] at hrebuilt ⊢
        rw [bind_eq_ok] at hrebuilt
        obtain ⟨_, heq, hsame⟩ := hrebuilt
        cases heq
        exact Option.some.inj (hmanifest.symm.trans (require_eq_ok.mp hsame))
      · rw [if_neg htop] at hrebuilt ⊢
        simp only [bind_eq_ok, expect_eq_ok, require_eq_ok] at hrebuilt
        obtain ⟨old, hold, rebuilt, hrebuilt, hsame⟩ := hrebuilt
        cases hmanifest.symm.trans hsame
        exact ⟨old, hold, hrebuilt⟩
  · intro path hpath
    unfold expectedMember
    by_cases hbundle : path = "bundle.json"
    · rw [if_pos hbundle, hbundle, hmanifest]
    · rw [if_neg hbundle]
      by_cases hown : path = spec.targetArtifactPath
      · rw [if_pos hown, hown, htarget]
      · rw [if_neg hown]
        exact hothers path hpath hbundle hown

/-- **One source and one specification have one acceptable snapshot.** -/
theorem inspect_unique {source : VerifiedBenchmarkCab}
    (hsource : CanonicalPaths (Dict.keys source.entries)) {c c' : Bytes} {entries entries' : Entries}
    (h : Verifier.inspectExactMutation R source c spec = .ok entries)
    (h' : Verifier.inspectExactMutation R source c' spec = .ok entries') : c = c' := by
  obtain ⟨hencode, hkeys, payload, expectedTarget, manifest, hpayload, hexpected, hmanifest,
    hmembers⟩ := inspect_ok hsource h
  obtain ⟨hencode', hkeys', payload', expectedTarget', manifest', hpayload', hexpected', hmanifest',
    hmembers'⟩ := inspect_ok hsource h'
  cases hpayload.symm.trans hpayload'
  cases hexpected.symm.trans hexpected'
  cases hmanifest.unique hmanifest'
  have hentries : entries = entries' := by
    refine Dict.ext_get? (hkeys.symm.trans hkeys') (hkeys ▸ hsource.nodup) fun path hpath => ?_
    rw [hmembers path hpath, hmembers' path (hkeys' ▸ hkeys.symm ▸ hpath)]
  rw [hentries] at hencode
  exact Except.ok.inj (hencode.symm.trans hencode')

/-! ## What the producer writes -/

/-- A verified CAB holds the entries of its bytes. -/
theorem verifyBenchmarkCab_entries {snapshot : Bytes} {digest : Digest}
    {cab : VerifiedBenchmarkCab} (h : verifyBenchmarkCab R snapshot digest = .ok cab) :
    decodeSnapshotEntries cab.snapshotBytes = .ok cab.entries := by
  unfold verifyBenchmarkCab at h
  simp only [bind_eq_ok, require_eq_ok, exists_and_left, exists_const] at h
  obtain ⟨-, -, _, -, entries, hentries, _, -, _, -, -, heq⟩ := h
  cases heq
  exact hentries

/-- The members that the producer encodes, before and after the manifest is rebuilt. -/
theorem ordered_members (hsource : CanonicalPaths (Dict.keys source))
    (hpayload : Dict.get? source spec.targetArtifactPath = some payload)
    (h : (if spec.manifestPolicy = .rebuild ∧ spec.targetArtifactPath ≠ "bundle.json" then
        rebuildManifest R (Dict.insert source spec.targetArtifactPath mutated)
          [spec.targetArtifactPath]
      else pure (Dict.insert source spec.targetArtifactPath mutated)) = .ok ordered)
    (hstale : spec.manifestPolicy = .keep →
      Dict.get? ordered "bundle.json" = Dict.get? source "bundle.json") :
    Dict.keys ordered = Dict.keys source ∧ ∃ manifest,
      ExpectedManifest R source spec mutated manifest
        ∧ Dict.get? ordered spec.targetArtifactPath = some mutated
        ∧ ∀ path, Dict.get? ordered path = expectedMember source spec mutated manifest path := by
  have htarget : spec.targetArtifactPath ∈ Dict.keys source :=
    Dict.get?_isSome.mp (by rw [hpayload]; rfl)
  have hroot : "bundle.json" ∈ Dict.keys source := by
    obtain ⟨rest, hrest, -⟩ := hsource
    rw [hrest]
    exact List.mem_cons_self ..
  obtain ⟨old, hold⟩ := Option.isSome_iff_exists.mp (Dict.get?_isSome.mpr hroot)
  have hkept := Dict.keys_insert_of_mem htarget mutated
  have hget := Dict.get?_insert_of_mem htarget mutated
  by_cases hrebuild : spec.manifestPolicy = .rebuild ∧ spec.targetArtifactPath ≠ "bundle.json"
  · rw [if_pos hrebuild] at h
    have hbundle := hget "bundle.json"
    rw [if_neg fun heq => hrebuild.2 heq.symm, hold] at hbundle
    have hown := hget spec.targetArtifactPath
    rw [if_pos rfl] at hown
    obtain ⟨rebuilt, hrebuilt, rfl⟩ := rebuildManifest_ok (hkept ▸ hsource) hbundle hown h
    have hget' := Dict.get?_insert_of_mem (hkept ▸ hroot) rebuilt
    refine ⟨(Dict.keys_insert_of_mem (hkept ▸ hroot) rebuilt).trans hkept, rebuilt, ?_, ?_, ?_⟩
    · unfold ExpectedManifest
      rw [hrebuild.1]
      dsimp only
      rw [if_neg hrebuild.2]
      exact ⟨old, hold, hrebuilt⟩
    · rw [hget', if_neg hrebuild.2, hown]
    · intro path
      rw [hget', hget]
      rfl
  · rw [if_neg hrebuild] at h
    cases h
    have hown := hget spec.targetArtifactPath
    rw [if_pos rfl] at hown
    cases hpolicy : spec.manifestPolicy with
    | keep =>
      refine ⟨hkept, old, ?_, hown, ?_⟩
      · unfold ExpectedManifest
        rw [hpolicy]
        exact hold
      · intro path
        unfold expectedMember
        by_cases hbundle : path = "bundle.json"
        · rw [if_pos hbundle, hbundle, hstale hpolicy, hold]
        · rw [if_neg hbundle]
          exact hget path
    | rebuild =>
      have htop : spec.targetArtifactPath = "bundle.json" :=
        not_not.mp fun hne => hrebuild ⟨hpolicy, hne⟩
      refine ⟨hkept, mutated, ?_, hown, ?_⟩
      · unfold ExpectedManifest
        rw [hpolicy]
        dsimp only
        rw [if_pos htop]
      · intro path
        unfold expectedMember
        rw [hget path, htop]
        by_cases hbundle : path = "bundle.json"
        · rw [if_pos hbundle, if_pos hbundle]
        · rw [if_neg hbundle, if_neg hbundle]

/-- The check of the policy passes on the producer's side and so on the verifier's. -/
theorem verifyManifestCase_ok {corrupted old new : Bytes}
    (hpayload : Dict.get? source spec.targetArtifactPath = some payload)
    (hmutated : Dict.get? ordered spec.targetArtifactPath = some mutated)
    (hold : Dict.get? source "bundle.json" = some old)
    (hnew : Dict.get? ordered "bundle.json" = some new)
    (hexpected : ExpectedManifest R source spec mutated new)
    (hone : spec.manifestPolicy = .keep → differing payload mutated = 1)
    (h : confirmManifestPolicy R spec.manifestPolicy corrupted old new = .ok ()) :
    Verifier.verifyManifestCase R spec.manifestPolicy source ordered corrupted
      spec.targetArtifactPath mutated = .ok () := by
  unfold ExpectedManifest at hexpected
  unfold confirmManifestPolicy at h
  unfold Verifier.verifyManifestCase
  cases hpolicy : spec.manifestPolicy with
  | keep =>
    rw [hpolicy] at h hexpected
    dsimp only at h hexpected ⊢
    simp only [bind_eq_ok, require_eq_ok, exists_and_left, exists_const] at h
    unfold Verifier.verifyStaleManifestCase
    rw [require_pos (by rw [hold, hnew, h.1]), ok_bind, hpayload, hmutated]
    simp only [expect, ok_bind]
    rw [require_pos (hone hpolicy), ok_bind]
    -- What is no bundle is no benchmark CAB.
    have hbad : ∃ e, verifyBenchmarkCab R corrupted (R.sha256 corrupted) = .error e := by
      cases hverify : verifyBenchmarkCab R corrupted (R.sha256 corrupted) with
      | error e => exact ⟨e, rfl⟩
      | ok cab =>
        unfold verifyBenchmarkCab at hverify
        simp only [bind_eq_ok, require_eq_ok, exists_and_left] at hverify
        obtain ⟨-, -, -, -, sealedSnapshot, hsealed, -⟩ := hverify
        rw [hsealed] at h
        cases h.2
    obtain ⟨e, he⟩ := hbad
    rw [he]
    rfl
  | rebuild =>
    rw [hpolicy] at h hexpected
    dsimp only at h hexpected ⊢
    simp only [bind_eq_ok, require_eq_ok, exists_and_left, exists_const] at h
    obtain ⟨-, cab, hcab, -⟩ := h
    unfold Verifier.verifyRebuiltManifestCase
    rw [hcab, ok_bind]
    by_cases htop : spec.targetArtifactPath = "bundle.json"
    · rw [if_pos htop] at hexpected ⊢
      show require (Dict.get? ordered "bundle.json" = some mutated) _ = .ok ()
      rw [hnew, hexpected]
      exact require_pos rfl
    · rw [if_neg htop] at hexpected ⊢
      obtain ⟨old', hold', hrebuilt⟩ := hexpected
      rw [hold']
      simp only [expect, ok_bind]
      rw [hrebuilt, ok_bind]
      exact require_pos hnew

/-- Besides the manifest, exactly the target has changed. -/
theorem changedMembers_eq {manifest : Bytes}
    (hpayload : Dict.get? source spec.targetArtifactPath = some payload)
    (hdiffer : payload ≠ mutated)
    (hmembers : ∀ path, Dict.get? ordered path = expectedMember source spec mutated manifest path) :
    (Verifier.changedMembers source ordered).toFinset
      = if spec.targetArtifactPath = "bundle.json" then ∅ else {spec.targetArtifactPath} := by
  have htarget : spec.targetArtifactPath ∈ Dict.keys source :=
    Dict.get?_isSome.mp (by rw [hpayload]; rfl)
  have hchanged : ∀ path, path ∈ Verifier.changedMembers source ordered
      ↔ path ≠ "bundle.json" ∧ path = spec.targetArtifactPath := by
    intro path
    unfold Verifier.changedMembers
    rw [List.mem_filter, decide_eq_true_iff, hmembers path]
    unfold expectedMember
    by_cases hbundle : path = "bundle.json"
    · exact ⟨fun h => absurd hbundle h.2.1, fun h => absurd hbundle h.1⟩
    · rw [if_neg hbundle]
      by_cases hown : path = spec.targetArtifactPath
      · rw [if_pos hown, hown, hpayload]
        exact ⟨fun h => ⟨h.2.1, rfl⟩,
          fun h => ⟨htarget, h.1, fun heq => hdiffer (Option.some.inj heq)⟩⟩
      · rw [if_neg hown]
        exact ⟨fun h => absurd rfl h.2.2, fun h => absurd h.2 hown⟩
  ext path
  rw [List.mem_toFinset, hchanged]
  by_cases htop : spec.targetArtifactPath = "bundle.json"
  · rw [if_pos htop, htop]
    exact ⟨fun h => absurd h.2 h.1, fun h => absurd h (Finset.notMem_empty _)⟩
  · rw [if_neg htop, Finset.mem_singleton]
    exact ⟨fun h => h.2, fun h => ⟨h ▸ htop, h⟩⟩

/-- The verifier accepts what the producer writes. -/
theorem replay_accepted {source : VerifiedBenchmarkCab} {replay : CorruptionReplay}
    (hsource : decodeSnapshotEntries source.snapshotBytes = .ok source.entries)
    (hkeep : spec.manifestPolicy = .keep → spec.corruptionId = "C01")
    (h : replayFrozenCorruption R source spec = .ok replay) :
    ∃ entries, Verifier.inspectExactMutation R source replay.corruptedBundleBytes spec
      = .ok entries := by
  have hcanonical : CanonicalPaths (Dict.keys source.entries) := decode_canonical hsource
  have hmap := Dict.ofPairs_of_nodup hcanonical.nodup
  unfold replayFrozenCorruption at h
  rw [hsource, ok_bind] at h
  dsimp only at h
  rw [hmap] at h
  simp only [bind_eq_ok, expect_eq_ok, require_eq_ok, exists_and_left, exists_const,
    Prod.exists] at h
  obtain ⟨old, hold, payload, hpayload, records, isJsonl, hload, records', before, after, hmutate,
    mutated, hbytes, hnoop, hone, kept, hkept, hrest⟩ := h
  have htarget : spec.targetArtifactPath ∈ Dict.keys source.entries :=
    Dict.get?_isSome.mp (by rw [hpayload]; rfl)
  have hkeys := Dict.keys_insert_of_mem htarget mutated
  rw [orderedEntries_canonical (hkeys ▸ hcanonical)] at hkept
  cases hkept
  obtain ⟨ordered, hordered, corrupted, hencode, ce, hdecode, new, hnew, hconfirm, rfl⟩ :
      ∃ ordered, (if spec.manifestPolicy = .rebuild ∧ spec.targetArtifactPath ≠ "bundle.json" then
          rebuildManifest R (Dict.insert source.entries spec.targetArtifactPath mutated)
            [spec.targetArtifactPath]
        else pure (Dict.insert source.entries spec.targetArtifactPath mutated)) = .ok ordered
        ∧ ∃ corrupted, encodeSnapshotEntries ordered = .ok corrupted
        ∧ ∃ ce, decodeSnapshotEntries corrupted = .ok ce
        ∧ ∃ new, (Dict.ofPairs ce).get? "bundle.json" = some new
        ∧ confirmManifestPolicy R spec.manifestPolicy corrupted old new = .ok ()
        ∧ corrupted = replay.corruptedBundleBytes := by
    by_cases hrebuild : spec.manifestPolicy = .rebuild ∧ spec.targetArtifactPath ≠ "bundle.json"
    · rw [if_pos hrebuild] at hrest ⊢
      simp only [bind_eq_ok, expect_eq_ok] at hrest
      obtain ⟨ordered, hordered, corrupted, hencode, ce, hdecode, new, hnew, _, hconfirm, heq⟩ :=
        hrest
      cases heq
      exact ⟨ordered, hordered, corrupted, hencode, ce, hdecode, new, hnew, hconfirm, rfl⟩
    · rw [if_neg hrebuild] at hrest ⊢
      simp only [bind_eq_ok, expect_eq_ok] at hrest
      obtain ⟨ordered, hordered, corrupted, hencode, ce, hdecode, new, hnew, _, hconfirm, heq⟩ :=
        hrest
      cases heq
      exact ⟨ordered, hordered, corrupted, hencode, ce, hdecode, new, hnew, hconfirm, rfl⟩
  cases (decode_encode hencode).symm.trans hdecode
  have hsame : Dict.ofPairs ordered = ordered :=
    Dict.ofPairs_of_nodup (decode_canonical hdecode).nodup
  rw [hsame] at hnew
  -- A kept manifest is the old one: the producer has compared the two.
  have hstale : spec.manifestPolicy = .keep →
      Dict.get? ordered "bundle.json" = Dict.get? source.entries "bundle.json" := by
    intro hpolicy
    rw [hpolicy] at hconfirm
    unfold confirmManifestPolicy at hconfirm
    simp only [bind_eq_ok, require_eq_ok, exists_and_left, exists_const] at hconfirm
    rw [hnew, hold, hconfirm.1]
  obtain ⟨hkeys', manifest, hexpected, hmutated, hmembers⟩ :=
    ordered_members hcanonical hpayload hordered hstale
  have hmanifest : manifest = new := by
    have hroot := hmembers "bundle.json"
    unfold expectedMember at hroot
    rw [if_pos rfl, hnew] at hroot
    exact (Option.some.inj hroot).symm
  subst hmanifest
  have hdiffer : payload ≠ mutated := fun heq => hnoop (.inl heq.symm)
  have hcase := verifyManifestCase_ok hpayload hmutated hold hnew hexpected
    (fun hpolicy => hone (hkeep hpolicy)) hconfirm
  refine ⟨ordered, ?_⟩
  unfold Verifier.inspectExactMutation
  rw [hdecode, ok_bind, hencode, ok_bind, require_pos rfl, ok_bind,
    require_pos (show source.entries.map Prod.fst = ordered.map Prod.fst from hkeys'.symm), ok_bind]
  dsimp only
  rw [hmap, hsame, hpayload]
  simp only [expect, ok_bind]
  rw [independentTargetMutation_ok hload hmutate hbytes, ok_bind, require_pos hmutated, ok_bind,
    require_pos (changedMembers_eq hpayload hdiffer hmembers), ok_bind, hcase]
  rfl

/-- **The producer and the verifier replay the same mutation.** Whatever the producer writes for a
verified source and a specification, the verifier accepts, and the verifier accepts no other
bytes for them. -/
theorem corruption_replay_agrees {snapshot : Bytes} {digest : Digest}
    {source : VerifiedBenchmarkCab} (hsource : verifyBenchmarkCab R snapshot digest = .ok source)
    {spec : FrozenCorruptionSpec ν}
    (hkeep : spec.manifestPolicy = .keep → spec.corruptionId = "C01") {replay : CorruptionReplay}
    (hreplay : replayFrozenCorruption R source spec = .ok replay) (corrupted : Bytes) :
    (∃ entries, Verifier.inspectExactMutation R source corrupted spec = .ok entries)
      ↔ corrupted = replay.corruptedBundleBytes := by
  have hentries := verifyBenchmarkCab_entries hsource
  obtain ⟨entries, haccepted⟩ := replay_accepted hentries hkeep hreplay
  constructor
  · rintro ⟨entries', haccepted'⟩
    exact inspect_unique (decode_canonical hentries) haccepted' haccepted
  · rintro rfl
    exact ⟨entries, haccepted⟩

def exampleText (text : String) : Bytes := text.toList.map fun c => UInt8.ofNat c.toNat

/-- A manifest of one file, written as the size of that file. -/
def exampleManifest (size : Nat) : BundleManifest where
  createdAt := "2026-01-01T00:00:00Z"
  asOf := "2026-01-01T00:00:00Z"
  experiment := ⟨"experiment", "1", 1⟩
  evaluation := ⟨"policy", 2, "evaluator", "1", "revision", none⟩
  parentBundles := []
  files := [⟨"records/a.json", 3, size, "application/json", "records", .synthetic, []⟩]

/-- Two JSON objects and their numbers, read and written. -/
def exampleJson : JsonCodec Unit where
  strictJsonLoads _ bytes :=
    if bytes = exampleText "\x7b\"a\":1\x7d" then .ok (.object [("a", .int 1)])
    else .error "invalid JSON"
  canonicalJsonBytes _ document :=
    match document with
    | .int 1 => .ok (exampleText "1")
    | .int 10 => .ok (exampleText "10")
    | .object [("a", .int 1)] => .ok (exampleText "\x7b\"a\":1\x7d")
    | .object [("a", .int 10)] => .ok (exampleText "\x7b\"a\":10\x7d")
    | _ => .error "not rendered here"

def exampleCabSha (bytes : Bytes) : Digest :=
  BitVec.ofNat 256 (bytes.foldl (fun n b => n * 256 + b.toNat + 1) 0)

def exampleCabRuntime : CabRuntime Unit where
  sha256 := exampleCabSha
  json := exampleJson
  texts := ⟨fun _ => false, fun _ => true⟩
  parseManifest bytes := match bytes with
    | [size] => .ok (exampleManifest size.toNat)
    | _ => .error "invalid manifest"
  manifestBytes manifest := .ok (manifest.files.map fun file => UInt8.ofNat file.size)
  verifyCabSnapshot bytes := .ok ⟨exampleCabSha bytes, "cab", exampleCabSha bytes⟩
  parseInt _ := none

/-- The snapshot of a manifest and one record. -/
def exampleSnapshot (text : String) : Bytes :=
  magic ++ bigEndian 4 2
    ++ entryBytes (exampleText "bundle.json") [UInt8.ofNat text.length]
    ++ entryBytes (exampleText "records/a.json") (exampleText text)

def exampleCorruption : FrozenCorruptionSpec Unit where
  corruptionId := "C02"
  targetArtifactPath := "records/a.json"
  targetRecordKey := "$"
  targetFieldPath := ⟨"/a", by decide⟩
  recipe := .replace (.int 10)
  manifestPolicy := .rebuild

def exampleCabSource : VerifiedBenchmarkCab :=
  let snapshot := exampleSnapshot "\x7b\"a\":1\x7d"
  ⟨snapshot, exampleCabSha snapshot, "cab", exampleCabSha snapshot, exampleManifest 7,
    [("bundle.json", [7]), ("records/a.json", exampleText "\x7b\"a\":1\x7d")]⟩

def exampleReplay : CorruptionReplay :=
  let snapshot := exampleSnapshot "\x7b\"a\":10\x7d"
  ⟨exampleCabSource.snapshotDigest, snapshot, exampleCabSha snapshot, exampleText "1",
    exampleText "10", exampleCabSha [7], exampleCabSha [8], true⟩

/-- A record of seven bytes becomes one of eight, and its descriptor with it. -/
theorem corruption_replay_agrees_example :
    replayFrozenCorruption exampleCabRuntime exampleCabSource exampleCorruption
        = .ok exampleReplay
      ∧ ∀ corrupted, (∃ entries, Verifier.inspectExactMutation exampleCabRuntime exampleCabSource
          corrupted exampleCorruption = .ok entries)
        ↔ corrupted = exampleReplay.corruptedBundleBytes := by
  have hsource : verifyBenchmarkCab exampleCabRuntime exampleCabSource.snapshotBytes
      exampleCabSource.snapshotDigest = .ok exampleCabSource := by decide +kernel
  have hreplay : replayFrozenCorruption exampleCabRuntime exampleCabSource exampleCorruption
      = .ok exampleReplay := by decide +kernel
  exact ⟨hreplay, fun corrupted =>
    corruption_replay_agrees hsource (fun h => absurd h (by decide)) hreplay corrupted⟩

end ControlAssurance.Benchmark
