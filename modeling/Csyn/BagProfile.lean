import Csyn.Lib.Scan
import Csyn.Bag

set_option autoImplicit false

/- `profile_metadata` of rust/src/bag.rs over the records of a file. -/
namespace Csyn

/-- The records of a `LinearReader`, as far as `profile_metadata` tells them apart. -/
inductive McapRecord where
  | header (profile library : Str)
  | metadata (name : Str) (entries : List (Str × Str))
  | message
  | chunk
  | other
  deriving DecidableEq

/-- The names that synapse_fbs freezes for the profile. -/
structure ProfileNames where
  profile : Str
  metadataName : Str
  schemaSetHashKey : Str
  sessionIdKey : Str
  sourceKey : Str
  timeBasisKey : Str
  timeBasisMonotonicBoot : Str
  timeBasisUnixEpoch : Str
  timeBasisCorrelated : Str

/-- `ProfileMetadata` -/
structure ProfileMetadata where
  library : Str
  schemaSetHash : Str
  sessionId : Str
  source : Str
  timeBasis : Str
  deriving DecidableEq

/-- `is_lowercase_hex_128` -/
def isLowercaseHex128 (value : Str) : Bool :=
  value.length == 32 &&
    value.all fun byte =>
      (decide (48 ≤ byte) && decide (byte ≤ 57)) || (decide (97 ≤ byte) && decide (byte ≤ 102))

section

variable (names : ProfileNames)

/-- The closure `required`. -/
def requiredEntry (entries : List (Str × Str)) (key : Str) : Except Str Str :=
  match (entries.lookup key).filter fun value => !value.isEmpty with
  | some value => .ok value
  | none => .error (str "Synapse MCAP metadata is missing " ++ key)

/-- The time bases that `matches!` lists. -/
def ProfileNames.timeBases : List Str :=
  [names.timeBasisMonotonicBoot, names.timeBasisUnixEpoch, names.timeBasisCorrelated]

/-- The arm of `profile_metadata` for its metadata record. -/
def readProfile (library : Str) (entries : List (Str × Str)) : Except Str ProfileMetadata :=
  match requiredEntry entries names.schemaSetHashKey with
  | .error error => .error error
  | .ok schemaSetHash =>
      match requiredEntry entries names.sessionIdKey with
      | .error error => .error error
      | .ok sessionId =>
          match requiredEntry entries names.sourceKey with
          | .error error => .error error
          | .ok source =>
              match requiredEntry entries names.timeBasisKey with
              | .error error => .error error
              | .ok timeBasis =>
                  if !isLowercaseHex128 schemaSetHash then
                    .error (str "invalid Synapse MCAP schema-set hash")
                  else if !isLowercaseHex128 sessionId then
                    .error (str "invalid Synapse MCAP session id")
                  else if timeBasis ∉ names.timeBases then
                    .error (str "invalid Synapse MCAP time basis '" ++ timeBasis ++ str "'")
                  else .ok ⟨library, schemaSetHash, sessionId, source, timeBasis⟩

/-- The loop after the header. -/
def profileTurn (library : Str) (_ : Unit) (record : Except Str McapRecord) :
    Scan.Turn Unit (Except Str ProfileMetadata) :=
  match record with
  | .error _ => .stop () (.error (str "failed to read MCAP profile metadata"))
  | .ok (.metadata name entries) =>
      if name = names.metadataName then .stop () (readProfile names library entries) else .next ()
  | .ok .message | .ok .chunk =>
      .stop () (.error (str "Synapse MCAP metadata must precede the first message"))
  | .ok (.header _ _) | .ok .other => .next ()

/-- `profile_metadata` on what a `LinearReader` makes of the contents. -/
def profileMetadata (reader : Except Str (List (Except Str McapRecord))) :
    Except Str ProfileMetadata :=
  match reader with
  | .error _ => .error (str "failed to open MCAP")
  | .ok (.error _ :: _) => .error (str "failed to read MCAP header")
  | .ok (.ok (.header profile library) :: records) =>
      if profile ≠ names.profile then
        .error (str "unsupported MCAP profile '" ++ profile ++ str "'; expected " ++ names.profile)
      else if library.isEmpty then .error (str "Synapse MCAP library identifier is empty")
      else
        match (Scan.run (profileTurn names library) () records).2 with
        | some result => result
        | none => .error (str "Synapse MCAP metadata record is missing")
  | .ok _ => .error (str "MCAP file does not begin with a header")

end

/-! ## The accepted files -/

/-- The entries of a metadata record that describe a recording. -/
structure ProfileMetadata.DescribedBy (names : ProfileNames) (entries : List (Str × Str))
    (profile : ProfileMetadata) : Prop where
  schemaSetHash : entries.lookup names.schemaSetHashKey = some profile.schemaSetHash
  sessionId : entries.lookup names.sessionIdKey = some profile.sessionId
  source : entries.lookup names.sourceKey = some profile.source
  timeBasis : entries.lookup names.timeBasisKey = some profile.timeBasis
  hash : isLowercaseHex128 profile.schemaSetHash = true
  session : isLowercaseHex128 profile.sessionId = true
  sourced : profile.source ≠ []
  based : profile.timeBasis ≠ [] ∧ profile.timeBasis ∈ names.timeBases

/-- The record may stand before the metadata of the profile. -/
def McapRecord.precedes (names : ProfileNames) : McapRecord → Bool
  | .header _ _ => true
  | .metadata name _ => name != names.metadataName
  | .message => false
  | .chunk => false
  | .other => true

/-- A file of the profile: a header of it with a library, then its metadata before any message. -/
def OfProfile (names : ProfileNames) (records : List (Except Str McapRecord))
    (profile : ProfileMetadata) : Prop :=
  ∃ (before : List McapRecord) (entries : List (Str × Str)) (rest : List (Except Str McapRecord)),
    records = .ok (.header names.profile profile.library) ::
      (before.map .ok ++ .ok (.metadata names.metadataName entries) :: rest) ∧
    (∀ record ∈ before, record.precedes names = true) ∧ profile.library ≠ [] ∧
      profile.DescribedBy names entries

section

variable {names : ProfileNames} {entries : List (Str × Str)} {library : Str}

theorem requiredEntry_ok {key value : Str} :
    requiredEntry entries key = .ok value ↔ entries.lookup key = some value ∧ value ≠ [] := by
  unfold requiredEntry
  cases found : entries.lookup key with
  | none => simp
  | some present =>
      rw [Option.filter_some]
      cases present with
      | nil => simp
      | cons byte rest =>
          simp only [List.isEmpty_cons, Bool.not_false, ↓reduceIte, Except.ok.injEq,
            Option.some.injEq]
          constructor
          · rintro rfl
            exact ⟨rfl, List.cons_ne_nil byte rest⟩
          · exact fun same => same.1

theorem isLowercaseHex128_ne_nil {value : Str} (valid : isLowercaseHex128 value = true) :
    value ≠ [] := by
  rintro rfl
  cases valid

/-- The record's entries pass exactly when they describe a recording. -/
theorem readProfile_ok {profile : ProfileMetadata} :
    readProfile names library entries = .ok profile ↔
      profile.library = library ∧ profile.DescribedBy names entries := by
  constructor
  · intro read
    unfold readProfile at read
    split at read
    · cases read
    · rename_i schemaSetHash hashed
      split at read
      · cases read
      · rename_i sessionId identified
        split at read
        · cases read
        · rename_i source sourced
          split at read
          · cases read
          · rename_i timeBasis timed
            split at read
            · cases read
            · rename_i hash
              split at read
              · cases read
              · rename_i session
                split at read
                · cases read
                · rename_i based
                  cases read
                  rw [Bool.not_eq_true', Bool.not_eq_false] at hash session
                  rw [not_not] at based
                  rw [requiredEntry_ok] at hashed identified sourced timed
                  exact ⟨rfl, hashed.1, identified.1, sourced.1, timed.1, hash, session,
                    sourced.2, timed.2, based⟩
  · rintro ⟨rfl, described⟩
    have hashed := requiredEntry_ok.mpr
      ⟨described.schemaSetHash, isLowercaseHex128_ne_nil described.hash⟩
    have identified := requiredEntry_ok.mpr
      ⟨described.sessionId, isLowercaseHex128_ne_nil described.session⟩
    have sourced := requiredEntry_ok.mpr ⟨described.source, described.sourced⟩
    have timed := requiredEntry_ok.mpr ⟨described.timeBasis, described.based.1⟩
    simp only [readProfile, hashed, identified, sourced, timed, described.hash, described.session,
      described.based.2, Bool.not_true, Bool.false_eq_true, not_true_eq_false, ↓reduceIte]

/-- Records that may precede the metadata are passed over. -/
theorem scan_precedes {before : List McapRecord}
    (precede : ∀ record ∈ before, record.precedes names = true) :
    Scan.run (profileTurn names library) () (before.map .ok) = ((), none) := by
  induction before with
  | nil => rfl
  | cons record rest ih =>
      have passes := precede record List.mem_cons_self
      have goes : profileTurn names library () (.ok record) = .next () := by
        cases record with
        | header profile library => rfl
        | metadata name entries =>
            rw [McapRecord.precedes, bne_iff_ne] at passes
            exact if_neg passes
        | message => cases passes
        | chunk => cases passes
        | other => rfl
      rw [List.map_cons, Scan.run_next goes]
      exact ih fun record' member => precede record' (List.mem_cons_of_mem record member)

/-- What the loop does not stop at may precede the metadata. -/
theorem scan_passed {records : List (Except Str McapRecord)}
    (through : Scan.run (profileTurn names library) () records = ((), none)) :
    ∃ before : List McapRecord, records = before.map .ok ∧
      ∀ record ∈ before, record.precedes names = true := by
  induction records with
  | nil => exact ⟨[], rfl, fun _ member => absurd member List.not_mem_nil⟩
  | cons record rest ih =>
      cases taken : profileTurn names library () record with
      | stop _ result =>
          rw [Scan.run_stop taken] at through
          cases through
      | next _ =>
          rw [Scan.run_next taken] at through
          obtain ⟨before, rfl, precede⟩ := ih through
          have passes : ∃ ok, record = .ok ok ∧ ok.precedes names = true := by
            unfold profileTurn at taken
            split at taken
            · cases taken
            · rename_i name entries
              split at taken
              · cases taken
              · rename_i other
                exact ⟨_, rfl, bne_iff_ne.mpr other⟩
            · cases taken
            · cases taken
            · exact ⟨_, rfl, rfl⟩
            · exact ⟨_, rfl, rfl⟩
          obtain ⟨ok, rfl, early⟩ := passes
          exact ⟨ok :: before, rfl, List.forall_mem_cons.mpr ⟨early, precede⟩⟩

/-- The loop finds a profile exactly when the metadata that describes it comes first. -/
theorem scan_profile {records : List (Except Str McapRecord)} {profile : ProfileMetadata} :
    (Scan.run (profileTurn names library) () records).2 = some (.ok profile) ↔
      ∃ (before : List McapRecord) (entries : List (Str × Str)) (rest : List (Except Str McapRecord)),
        records = before.map .ok ++ .ok (.metadata names.metadataName entries) :: rest ∧
        (∀ record ∈ before, record.precedes names = true) ∧ profile.library = library ∧
          profile.DescribedBy names entries := by
  constructor
  · intro found
    obtain ⟨before, record, rest, mid, rfl, through, stops⟩ :=
      Scan.run_stopped (show Scan.run (profileTurn names library) () records =
        ((), some (.ok profile)) from Prod.ext rfl found)
    obtain ⟨passed, rfl, precede⟩ := scan_passed through
    unfold profileTurn at stops
    split at stops
    · cases stops
    · rename_i name entries
      split at stops
      · rename_i own
        cases own
        have read : readProfile names library entries = .ok profile := by
          injection stops
        exact ⟨passed, entries, rest, rfl, precede, readProfile_ok.mp read⟩
      · cases stops
    · cases stops
    · cases stops
    · cases stops
    · cases stops
  · rintro ⟨before, entries, rest, rfl, precede, own, described⟩
    have stops : profileTurn names library () (.ok (.metadata names.metadataName entries)) =
        .stop () (.ok profile) := by
      rw [profileTurn, if_pos rfl, readProfile_ok.mpr ⟨own, described⟩]
    rw [Scan.run_append (scan_precedes precede), Scan.run_stop stops]

end

/-- `profile_metadata` accepts exactly the files of the profile, and returns what their metadata
record says. -/
theorem profile_metadata_iff (names : ProfileNames) (records : List (Except Str McapRecord))
    (profile : ProfileMetadata) :
    profileMetadata names (.ok records) = .ok profile ↔ OfProfile names records profile := by
  unfold OfProfile
  constructor
  · intro accepted
    unfold profileMetadata at accepted
    split at accepted
    · cases accepted
    · cases accepted
    · rename_i opened
      cases opened
      split at accepted
      · cases accepted
      · rename_i own
        rw [not_not] at own
        subst own
        split at accepted
        · cases accepted
        · rename_i named
          split at accepted
          · rename_i result found
            subst accepted
            obtain ⟨before, entries, rest, rfl, precede, rfl, described⟩ := scan_profile.mp found
            rw [List.isEmpty_iff] at named
            exact ⟨before, entries, rest, rfl, precede, named, described⟩
          · cases accepted
    · cases accepted
  · rintro ⟨before, entries, rest, rfl, precede, named, described⟩
    have found := scan_profile.mpr ⟨before, entries, rest, rfl, precede, rfl, described⟩
    unfold profileMetadata
    dsimp only
    rw [if_neg (not_not.mpr rfl), if_neg (by rw [List.isEmpty_iff]; exact named), found]

end Csyn
