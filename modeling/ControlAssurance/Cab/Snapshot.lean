import Mathlib.Data.List.Basic
import Mathlib.Data.List.Nodup
import Mathlib.Data.String.Basic
import ControlAssurance.Lib.Checked
import ControlAssurance.Lib.Wire

/-!
# The CAB snapshot container

`magic | file-count:u32 | repeated(path-len:u16 | path | size:u64 | bytes)`, with `bundle.json`
first and the other paths strictly increasing. The encoder checks what it writes, the decoder
checks what it reads, and each undoes the other (`decode_encode`, `encode_decode`).
-/

namespace ControlAssurance.Cab

open Lib

abbrev Bytes := List UInt8

abbrev Entries := List (String × Bytes)

def maxCabSnapshotBytes : Nat := 4 * 1024 * 1024

def maxCabSnapshotFiles : Nat := 4096

/-! ## Paths -/

def payloadPrefixes : List String := ["spec", "records", "artifacts", "derived"]

def isPortable (c : Char) : Bool := c.isAlphanum || ['.', '_', '-'].contains c

/-- `path.split("/")`. -/
def pathParts (path : String) : List (List Char) := path.toList.splitOn '/'

/-- The checks of one component. -/
def validatePart (part : List Char) : Except String Unit := do
  require (part.length ≤ 255) "bundle path component exceeds the configured byte limit"
  require (part.head? ≠ some '.') "bundle path sidecar components are forbidden"
  require ((part.head?.any Char.isAlphanum && part.tail.all isPortable) = true)
    "bundle path contains a non-portable component"

/-- `validate_payload_path`. The bidirectional check is left to the next one: no ASCII character
has such a class. -/
def validatePayloadPath (path : String) : Except String Unit := do
  let chars := path.toList
  require (chars ≠ [] ∧ chars.head? ≠ some '/' ∧ '\\' ∉ chars)
    "bundle path must be a relative POSIX path"
  require (∀ c ∈ chars, ¬(c.toNat < 0x20 ∨ c.toNat = 0x7f))
    "bundle path contains an ASCII control character"
  require (∀ c ∈ chars, c.toNat < 128) "bundle paths must use portable ASCII characters"
  require (chars.length ≤ 1024) "bundle path exceeds the configured byte limit"
  let parts := pathParts path
  require (∀ part ∈ parts, part ∉ [[], ['.'], ['.', '.']])
    "bundle path contains traversal or an empty component"
  require (parts.head?.map String.ofList ∈ payloadPrefixes.map some)
    "bundle payload path uses an unsupported root"
  parts.forM validatePart

/-- `_validate_snapshot_path`. -/
def validateSnapshotPath (path : String) : Except String Unit :=
  if path = "bundle.json" then .ok ()
  else (validatePayloadPath path).mapError fun _ => "snapshot path is not CAB-safe"

/-- The place of a path: `bundle.json` first and only there, the others strictly sorted.
`previous` is the last payload path, empty before the first one. -/
def validateOrder (first : Bool) (previous path : String) (unsorted : String) :
    Except String Unit :=
  if first then require (path = "bundle.json") "CAB snapshot must begin with bundle.json"
  else do
    require (path ≠ "bundle.json") "CAB snapshot can contain only one leading bundle.json"
    require (previous < path) unsorted

/-- `previous_payload_path` after a path. -/
def nextPrevious (first : Bool) (previous path : String) : String :=
  if first then previous else path

/-! ## The codec -/

/-- `path.encode("ascii", errors="strict")`. -/
def encodeAscii (path : String) : Option Bytes :=
  if ∀ c ∈ path.toList, c.toNat < 128 then some (path.toList.map fun c => UInt8.ofNat c.toNat)
  else none

/-- `encoded.decode("ascii", errors="strict")`. -/
def decodeAscii (encoded : Bytes) : Option String :=
  if ∀ b ∈ encoded, b.toNat < 128 then
    some (String.ofList (encoded.map fun b => Char.ofNat b.toNat))
  else none

def magic : Bytes := "CONTROL-ASSURANCE-CAB-SNAPSHOT\x00\x01".toList.map fun c => UInt8.ofNat c.toNat

/-- The loop of `_encode`: the bytes so far, and one entry after the other. -/
def encodeEntries (maximum : Nat) : Bool → String → Bytes → Entries → Except String Bytes
  | _, _, output, [] => .ok output
  | first, previous, output, (path, content) :: rest => do
    validateSnapshotPath path
    validateOrder first previous path "snapshot paths must be strictly sorted"
    let encoded ← expect (encodeAscii path) "snapshot paths must use portable ASCII"
    require (encoded ≠ [] ∧ encoded.length ≤ 1024)
      "snapshot path length is outside the supported range"
    let output := output ++ bigEndian 2 encoded.length ++ encoded
      ++ bigEndian 8 content.length ++ content
    require (output.length ≤ maximum) "CAB snapshot exceeds the configured byte limit"
    encodeEntries maximum false (nextPrevious first previous path) output rest

/-- `encode_cab_snapshot_entries`. -/
def encodeCabSnapshotEntries (entries : Entries) (maximum : Nat) : Except String Bytes := do
  require (1024 ≤ maximum ∧ maximum ≤ maxCabSnapshotBytes)
    "CAB snapshot limit is outside the supported profile"
  require (entries ≠ [] ∧ entries.length ≤ maxCabSnapshotFiles)
    "snapshot file count is outside the supported range"
  encodeEntries maximum true "" (magic ++ bigEndian 4 entries.length) entries

/-- One entry off the front of the wire. -/
def decodeEntry (first : Bool) (previous : String) (bytes : Bytes) :
    Except String ((String × Bytes) × Bytes) := do
  let (pathLength, bytes) ← expect (readNumber 2 bytes) "CAB snapshot path length is truncated"
  require (1 ≤ pathLength ∧ pathLength ≤ 1024)
    "CAB snapshot path length is outside the supported range"
  require (pathLength + 8 ≤ bytes.length) "CAB snapshot entry header is truncated"
  let (encoded, bytes) ← expect (cut pathLength bytes) "CAB snapshot entry header is truncated"
  let path ← expect (decodeAscii encoded) "CAB snapshot path is not portable ASCII"
  validateSnapshotPath path
  validateOrder first previous path "CAB snapshot paths are not strictly sorted"
  let (size, bytes) ← expect (readNumber 8 bytes) "CAB snapshot entry header is truncated"
  let (content, bytes) ← expect (cut size bytes) "CAB snapshot content is truncated"
  pure ((path, content), bytes)

/-- The loop of `_decode`. -/
def decodeEntries : Nat → Bool → String → Bytes → Except String (Entries × Bytes)
  | 0, _, _, bytes => .ok ([], bytes)
  | count + 1, first, previous, bytes => do
    let (entry, bytes) ← decodeEntry first previous bytes
    let (entries, bytes) ← decodeEntries count false (nextPrevious first previous entry.1) bytes
    pure (entry :: entries, bytes)

/-- `decode_cab_snapshot_entries`. -/
def decodeCabSnapshotEntries (snapshot : Bytes) (maximum : Nat) : Except String Entries := do
  require (1024 ≤ maximum ∧ maximum ≤ maxCabSnapshotBytes)
    "CAB snapshot limit is outside the supported profile"
  require (snapshot.length ≤ maximum) "CAB snapshot exceeds the configured byte limit"
  require (magic <+: snapshot) "CAB snapshot has the wrong format marker"
  let (count, bytes) ← expect (readNumber 4 (snapshot.drop magic.length))
    "CAB snapshot header is truncated"
  require (1 ≤ count ∧ count ≤ maxCabSnapshotFiles)
    "CAB snapshot file count is outside the supported range"
  let (entries, rest) ← decodeEntries count true "" bytes
  require (rest = []) "CAB snapshot has trailing bytes"
  pure entries

/-! ## Reading undoes writing -/

variable {path previous : String} {first : Bool} {maximum : Nat} {bytes : Bytes}

theorem decodeAscii_encodeAscii {encoded : Bytes}
    (h : encodeAscii path = some encoded) : decodeAscii encoded = some path := by
  unfold encodeAscii at h
  split at h
  · next hascii =>
    cases h
    have hbyte : ∀ c ∈ path.toList, (UInt8.ofNat c.toNat).toNat = c.toNat := by
      intro c hc
      rw [UInt8.toNat_ofNat']
      exact Nat.mod_eq_of_lt (Nat.lt_trans (hascii c hc) (by decide))
    have hchars : (path.toList.map fun c => UInt8.ofNat c.toNat).map (fun b => Char.ofNat b.toNat)
        = path.toList := by
      rw [List.map_map]
      conv_rhs => rw [← List.map_id path.toList]
      refine List.map_congr_left fun c hc => ?_
      show Char.ofNat (UInt8.ofNat c.toNat).toNat = c
      rw [hbyte c hc, Char.ofNat_toNat]
    unfold decodeAscii
    rw [if_pos, hchars, String.ofList_toList]
    intro b hb
    obtain ⟨c, hc, rfl⟩ := List.mem_map.mp hb
    rw [hbyte c hc]
    exact hascii c hc
  · cases h

/-- What the encoder checks of an entry. -/
structure EntryFacts (first : Bool) (previous path : String) (encoded : Bytes) : Prop where
  safe : validateSnapshotPath path = .ok ()
  order : (if first then path = "bundle.json" else path ≠ "bundle.json" ∧ previous < path)
  ascii : encodeAscii path = some encoded
  length : encoded ≠ [] ∧ encoded.length ≤ 1024

theorem validateOrder_eq_ok {text : String} :
    validateOrder first previous path text = .ok ()
      ↔ if first then path = "bundle.json" else path ≠ "bundle.json" ∧ previous < path := by
  unfold validateOrder
  cases first with
  | true => exact require_eq_ok
  | false =>
    show (require (path ≠ "bundle.json") _ >>= fun _ => require (previous < path) text) = .ok () ↔ _
    rw [bind_eq_ok]
    simp only [require_eq_ok]
    constructor
    · rintro ⟨-, h⟩
      exact h
    · exact fun h => ⟨(), h⟩

/-- The bytes of one entry. -/
def entryBytes (encoded content : Bytes) : Bytes :=
  bigEndian 2 encoded.length ++ encoded ++ bigEndian 8 content.length ++ content

theorem decodeEntry_entryBytes {encoded content : Bytes}
    (h : EntryFacts first previous path encoded) (hsize : content.length < 256 ^ 8) (rest : Bytes) :
    decodeEntry first previous (entryBytes encoded content ++ rest)
      = .ok ((path, content), rest) := by
  have hbytes : entryBytes encoded content ++ rest = bigEndian 2 encoded.length
      ++ (encoded ++ (bigEndian 8 content.length ++ (content ++ rest))) := by
    simp only [entryBytes, List.append_assoc]
  have hpath : encoded.length < 256 ^ 2 := Nat.lt_of_le_of_lt h.length.2 (by decide)
  have hpos : 1 ≤ encoded.length := List.length_pos_iff.mpr h.length.1
  rw [hbytes]
  unfold decodeEntry
  rw [readNumber_bigEndian hpath]
  simp only [expect, ok_bind]
  rw [require_pos ⟨hpos, h.length.2⟩, ok_bind, require_pos, ok_bind, cut_append rfl]
  · simp only [ok_bind]
    rw [decodeAscii_encodeAscii h.ascii]
    simp only [ok_bind]
    rw [h.safe, ok_bind, validateOrder_eq_ok.mpr h.order, ok_bind, readNumber_bigEndian hsize]
    simp only [ok_bind]
    rw [cut_append rfl]
    rfl
  · simp only [List.length_append, bigEndian_length]
    omega

/-- The encoder's loop appends bytes that the decoder's loop reads back. -/
theorem encodeEntries_ok (hmax : maximum ≤ maxCabSnapshotBytes) :
    ∀ {entries : Entries} {first : Bool} {previous : String} {output bytes : Bytes},
      encodeEntries maximum first previous output entries = .ok bytes →
      output.length ≤ maximum → bytes.length ≤ maximum ∧ ∃ tail, bytes = output ++ tail
        ∧ ∀ rest, decodeEntries entries.length first previous (tail ++ rest)
          = .ok (entries, rest) := by
  intro entries
  induction entries with
  | nil =>
    intro first previous output bytes h hlen
    cases h
    exact ⟨hlen, [], (List.append_nil _).symm, fun rest => rfl⟩
  | cons entry entries ih =>
    obtain ⟨path, content⟩ := entry
    intro first previous output bytes h _
    simp only [encodeEntries, bind_eq_ok, require_eq_ok, expect_eq_ok, exists_and_left,
      exists_const] at h
    obtain ⟨_, hsafe, _, horder, encoded, hascii, hlength, hsize, hrest⟩ := h
    have hfacts : EntryFacts first previous path encoded :=
      ⟨hsafe, validateOrder_eq_ok.mp horder, hascii, hlength⟩
    obtain ⟨hbound, tail, htail, hdecode⟩ := ih hrest hsize
    refine ⟨hbound, entryBytes encoded content ++ tail, ?_, ?_⟩
    · rw [htail]
      simp only [entryBytes, List.append_assoc]
    · intro rest
      have hcontent : content.length < 256 ^ 8 := by
        simp only [List.length_append] at hsize
        unfold maxCabSnapshotBytes at hmax
        omega
      show (decodeEntry first previous _ >>= _) = _
      rw [List.append_assoc, decodeEntry_entryBytes hfacts hcontent]
      simp only [ok_bind]
      rw [hdecode]
      rfl

/-- **Reading undoes writing.** -/
theorem decode_encode {entries : Entries}
    (h : encodeCabSnapshotEntries entries maximum = .ok bytes) :
    decodeCabSnapshotEntries bytes maximum = .ok entries := by
  simp only [encodeCabSnapshotEntries, bind_eq_ok, require_eq_ok, exists_and_left,
    exists_const] at h
  obtain ⟨hprofile, hcount, hrest⟩ := h
  have hheader : (magic ++ bigEndian 4 entries.length).length ≤ maximum := by
    rw [List.length_append, bigEndian_length]
    have hmagic : magic.length = 32 := by decide
    omega
  obtain ⟨hbound, tail, htail, hdecode⟩ := encodeEntries_ok hprofile.2 hrest hheader
  have hfiles : entries.length < 256 ^ 4 := by
    have := hcount.2
    unfold maxCabSnapshotFiles at this
    omega
  have hpos : 1 ≤ entries.length := List.length_pos_iff.mpr hcount.1
  unfold decodeCabSnapshotEntries
  rw [require_pos hprofile, ok_bind, require_pos hbound, ok_bind, htail, List.append_assoc,
    require_pos (List.prefix_append _ _), ok_bind, List.drop_left, readNumber_bigEndian hfiles]
  simp only [expect, ok_bind]
  rw [require_pos ⟨hpos, hcount.2⟩, ok_bind]
  have hlast := hdecode []
  rw [List.append_nil] at hlast
  rw [hlast]
  rfl

/-! ## Writing undoes reading -/

theorem encodeAscii_decodeAscii {encoded : Bytes} (h : decodeAscii encoded = some path) :
    encodeAscii path = some encoded := by
  unfold decodeAscii at h
  split at h
  next hascii =>
    have hcode : ∀ b ∈ encoded, (Char.ofNat b.toNat).toNat = b.toNat := by
      have hall : ∀ n < 128, (Char.ofNat n).toNat = n := by decide
      exact fun b hb => hall _ (hascii b hb)
    obtain rfl := Option.some.inj h
    unfold encodeAscii
    rw [String.toList_ofList, if_pos, List.map_map]
    · congr 1
      refine (List.map_congr_left fun b hb => ?_).trans (List.map_id _)
      show UInt8.ofNat (Char.ofNat b.toNat).toNat = b
      rw [hcode b hb, UInt8.ofNat_toNat]
    · intro c hc
      obtain ⟨b, hb, rfl⟩ := List.mem_map.mp hc
      rw [hcode b hb]
      exact hascii b hb
  next => cases h

/-- An entry that is read passes the encoder's checks and was written as its bytes. -/
theorem decodeEntry_ok {content rest : Bytes}
    (h : decodeEntry first previous bytes = .ok ((path, content), rest)) :
    ∃ encoded, EntryFacts first previous path encoded ∧ bytes = entryBytes encoded content ++ rest := by
  unfold decodeEntry at h
  simp only [bind_eq_ok, require_eq_ok, expect_eq_ok, exists_and_left, exists_const,
    Prod.exists] at h
  obtain ⟨_, tail, hlength, hrange, -, encoded, _, hcut, path', hascii, _, hsafe, _, horder, size, _,
    hsize, _, _, hcontent, heq⟩ := h
  cases heq
  obtain ⟨-, rfl⟩ := readNumber_eq_some hlength
  obtain ⟨rfl, rfl⟩ := cut_eq_some hcut
  obtain ⟨-, rfl⟩ := readNumber_eq_some hsize
  obtain ⟨rfl, rfl⟩ := cut_eq_some hcontent
  refine ⟨encoded, ⟨hsafe, validateOrder_eq_ok.mp horder, encodeAscii_decodeAscii hascii,
    List.ne_nil_of_length_pos hrange.1, hrange.2⟩, ?_⟩
  simp only [entryBytes, List.append_assoc]

/-- The decoder's loop takes off what the encoder's loop appends for the entries. -/
theorem decodeEntries_ok :
    ∀ {count : Nat} {first : Bool} {previous : String} {bytes rest : Bytes} {entries : Entries},
      decodeEntries count first previous bytes = .ok (entries, rest) → entries.length = count
        ∧ (∀ entry ∈ entries, validateSnapshotPath entry.1 = .ok ())
        ∧ ∃ taken, bytes = taken ++ rest ∧ ∀ output, (output ++ taken).length ≤ maximum →
          encodeEntries maximum first previous output entries = .ok (output ++ taken) := by
  intro count
  induction count with
  | zero =>
    intro first previous bytes rest entries h
    cases h
    refine ⟨rfl, List.forall_mem_nil _, [], rfl, fun output _ => ?_⟩
    rw [List.append_nil]
    rfl
  | succ count ih =>
    intro first previous bytes rest entries h
    simp only [decodeEntries, bind_eq_ok, Prod.exists] at h
    obtain ⟨path, content, bytes', hentry, entries', rest', hentries, heq⟩ := h
    cases heq
    obtain ⟨encoded, hfacts, rfl⟩ := decodeEntry_ok hentry
    obtain ⟨hlength, hpaths, taken, rfl, hencode⟩ := ih hentries
    refine ⟨congrArg Nat.succ hlength, List.forall_mem_cons.mpr ⟨hfacts.safe, hpaths⟩,
      entryBytes encoded content ++ taken, (List.append_assoc ..).symm, fun output hsize => ?_⟩
    rw [← List.append_assoc] at hsize ⊢
    have hbefore : (output ++ entryBytes encoded content).length ≤ maximum := by
      have hall := hsize
      rw [List.length_append] at hall
      omega
    have houtput : output ++ bigEndian 2 encoded.length ++ encoded ++ bigEndian 8 content.length
        ++ content = output ++ entryBytes encoded content := by
      simp only [entryBytes, List.append_assoc]
    rw [encodeEntries, hfacts.safe, ok_bind, validateOrder_eq_ok.mpr hfacts.order, ok_bind,
      hfacts.ascii, expect, ok_bind, require_pos hfacts.length, ok_bind]
    dsimp only
    rw [houtput, require_pos hbefore, ok_bind]
    exact hencode _ hsize

/-- **Writing undoes reading.** -/
theorem encode_decode {entries : Entries}
    (h : decodeCabSnapshotEntries bytes maximum = .ok entries) :
    encodeCabSnapshotEntries entries maximum = .ok bytes
      ∧ ∀ entry ∈ entries, validateSnapshotPath entry.1 = .ok () := by
  unfold decodeCabSnapshotEntries at h
  simp only [bind_eq_ok, require_eq_ok, expect_eq_ok, exists_and_left, exists_const,
    Prod.exists] at h
  obtain ⟨hprofile, hbound, ⟨body, rfl⟩, count, _, hheader, hcount, entries', rest, hentries, rfl,
    heq⟩ := h
  cases heq
  rw [List.drop_left] at hheader
  obtain ⟨-, rfl⟩ := readNumber_eq_some hheader
  obtain ⟨rfl, hpaths, taken, rfl, hencode⟩ := decodeEntries_ok hentries
  rw [List.append_nil, ← List.append_assoc] at hbound ⊢
  refine ⟨?_, hpaths⟩
  unfold encodeCabSnapshotEntries
  rw [require_pos hprofile, ok_bind,
    require_pos ⟨List.ne_nil_of_length_pos hcount.1, hcount.2⟩, ok_bind]
  exact hencode _ hbound

/-! ## The shape of a snapshot -/

/-- `bundle.json` first, then the payload paths strictly increasing. -/
def CanonicalPaths (paths : List String) : Prop :=
  ∃ rest, paths = "bundle.json" :: rest ∧ rest.Pairwise (· < ·) ∧ "bundle.json" ∉ rest

theorem decodeEntries_order :
    ∀ {count : Nat} {previous : String} {bytes rest : Bytes} {entries : Entries},
      decodeEntries count false previous bytes = .ok (entries, rest) →
      (previous :: entries.map Prod.fst).Pairwise (· < ·)
        ∧ "bundle.json" ∉ entries.map Prod.fst := by
  intro count
  induction count with
  | zero =>
    intro previous bytes rest entries h
    cases h
    exact ⟨List.pairwise_singleton _ _, List.not_mem_nil⟩
  | succ count ih =>
    intro previous bytes rest entries h
    simp only [decodeEntries, bind_eq_ok, Prod.exists] at h
    obtain ⟨path, content, bytes', hentry, entries', rest', hentries, heq⟩ := h
    cases heq
    obtain ⟨_, hfacts, -⟩ := decodeEntry_ok hentry
    have horder : path ≠ "bundle.json" ∧ previous < path := hfacts.order
    obtain ⟨hsorted, hnot⟩ := ih hentries
    have hprevious : nextPrevious false previous path = path := rfl
    rw [hprevious] at hsorted
    refine ⟨?_, ?_⟩
    · rw [List.map_cons, List.pairwise_cons]
      refine ⟨?_, hsorted⟩
      intro x hx
      rcases List.mem_cons.mp hx with rfl | hx
      · exact horder.2
      · exact lt_trans horder.2 ((List.pairwise_cons.mp hsorted).1 x hx)
    · rw [List.map_cons, List.mem_cons]
      rintro (heq | hmem)
      · exact horder.1 heq.symm
      · exact hnot hmem

/-- What decodes has its members in canonical order. -/
theorem decode_canonical {entries : Entries}
    (h : decodeCabSnapshotEntries bytes maximum = .ok entries) :
    CanonicalPaths (entries.map Prod.fst) := by
  unfold decodeCabSnapshotEntries at h
  simp only [bind_eq_ok, require_eq_ok, expect_eq_ok, exists_and_left, exists_const,
    Prod.exists] at h
  obtain ⟨-, -, -, count, rest, -, hcount, entries', rest', hentries, -, heq⟩ := h
  cases heq
  obtain ⟨n, rfl⟩ : ∃ n, count = n + 1 := ⟨count - 1, by omega⟩
  simp only [decodeEntries, bind_eq_ok, Prod.exists] at hentries
  obtain ⟨path, content, bytes', hentry, entries'', rest'', hrest, heq⟩ := hentries
  cases heq
  obtain ⟨_, hfacts, -⟩ := decodeEntry_ok hentry
  have hfirst : path = "bundle.json" := hfacts.order
  obtain ⟨hsorted, hnot⟩ := decodeEntries_order hrest
  exact ⟨entries''.map Prod.fst, by rw [List.map_cons, hfirst], (List.pairwise_cons.mp hsorted).2,
    hnot⟩

theorem CanonicalPaths.nodup {paths : List String} (h : CanonicalPaths paths) : paths.Nodup := by
  obtain ⟨rest, rfl, hsorted, hnot⟩ := h
  exact List.nodup_cons.mpr ⟨hnot, hsorted.imp fun hlt => ne_of_lt hlt⟩

theorem validatePayloadPath_of_snapshot (h : validateSnapshotPath path = .ok ())
    (hne : path ≠ "bundle.json") : validatePayloadPath path = .ok () := by
  rw [validateSnapshotPath, if_neg hne] at h
  exact mapError_eq_ok.mp h

/-- Behind the check of an entry's header, its path and its size are there to be read. -/
theorem header_read {pathLength : Nat} (h : pathLength + 8 ≤ bytes.length) :
    ∃ encoded rest size tail, cut pathLength bytes = some (encoded, rest)
      ∧ readNumber 8 rest = some (size, tail) := by
  have hrest : 8 ≤ (bytes.drop pathLength).length := by
    rw [List.length_drop]
    omega
  have hsize : cut 8 (bytes.drop pathLength)
      = some ((bytes.drop pathLength).take 8, (bytes.drop pathLength).drop 8) := if_pos hrest
  refine ⟨bytes.take pathLength, bytes.drop pathLength,
    bigEndianValue ((bytes.drop pathLength).take 8), (bytes.drop pathLength).drop 8,
    if_pos (by omega), ?_⟩
  rw [readNumber, hsize]
  rfl

/-- **The codec is a canonical bijection.** Each side undoes the other, what they accept is one
leading `bundle.json` and portable payload paths in order, and all other bytes are refused. A
refusal is always the decoder's own: `struct` is never asked for bytes that are not there. -/
theorem snapshot_codec_bijective (maximum : Nat) :
    (∀ entries bytes, encodeCabSnapshotEntries entries maximum = .ok bytes
      ↔ decodeCabSnapshotEntries bytes maximum = .ok entries)
    ∧ (∀ entries bytes, decodeCabSnapshotEntries bytes maximum = .ok entries →
      ∃ rest, entries.map Prod.fst = "bundle.json" :: rest ∧ rest.Pairwise (· < ·)
        ∧ ∀ path ∈ rest, path ≠ "bundle.json" ∧ validatePayloadPath path = .ok ())
    ∧ (∀ bytes, (∀ entries, encodeCabSnapshotEntries entries maximum ≠ .ok bytes) →
      ∃ message, decodeCabSnapshotEntries bytes maximum = .error message)
    ∧ ∀ pathLength (bytes : Bytes), pathLength + 8 ≤ bytes.length →
      ∃ encoded rest size tail, cut pathLength bytes = some (encoded, rest)
        ∧ readNumber 8 rest = some (size, tail) := by
  refine ⟨fun entries bytes => ⟨decode_encode, fun h => (encode_decode h).1⟩, ?_, ?_,
    fun _ _ h => header_read h⟩
  · intro entries bytes h
    obtain ⟨rest, hrest, hsorted, hnot⟩ := decode_canonical h
    refine ⟨rest, hrest, hsorted, fun path hpath => ?_⟩
    have hne : path ≠ "bundle.json" := fun heq => hnot (heq ▸ hpath)
    have hmem : path ∈ entries.map Prod.fst := hrest ▸ List.mem_cons_of_mem _ hpath
    obtain ⟨entry, hentry, rfl⟩ := List.mem_map.mp hmem
    exact ⟨hne, validatePayloadPath_of_snapshot ((encode_decode h).2 entry hentry) hne⟩
  · intro bytes h
    cases hdecode : decodeCabSnapshotEntries bytes maximum with
    | ok entries => exact absurd (encode_decode hdecode).1 (h entries)
    | error message => exact ⟨message, rfl⟩

/-- An entry of the wire, under an ASCII path. -/
def exampleEntry (path : String) (content : Bytes) : Bytes :=
  entryBytes (path.toList.map fun c => UInt8.ofNat c.toNat) content

theorem bundle_snapshot :
    decodeCabSnapshotEntries (magic ++ bigEndian 4 3 ++ exampleEntry "bundle.json" [0x7b, 0x7d]
        ++ exampleEntry "records/a.jsonl" [] ++ exampleEntry "spec/b.json" [0x31]) 1024
      = .ok [("bundle.json", [0x7b, 0x7d]), ("records/a.jsonl", []), ("spec/b.json", [0x31])] :=
  ((snapshot_codec_bijective 1024).1 _ _).mp (by decide +kernel)

end ControlAssurance.Cab
