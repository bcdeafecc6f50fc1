import RecordDirectory.Proofs.Predicate.Search
import RecordDirectory.Proofs.Session.Pages
import RecordDirectory.Proofs.Session.Tallies

namespace RecordDirectory

/-!
# What a search finds

A search in a directory finds the records of that directory in which the term is sought, and it finds them
under the fields that the directory has by then.  A record is seen through these fields as well, also where it
was written under others: what it holds under a name that is no field any more is not found, and a field that
it does not hold is empty.

Whoever reads a part of a field finds the record again with it, in any case of its letters.
-/

/-- What a search with a term finds in a directory. -/
structure Tables.Finds (t : Tables) (directory : Directory) (term : Option String) (found : List Record) :
    Prop where
  member : ∀ record, record ∈ found ↔
    t.records.get? record.id = some record ∧ record.directory = directory.id ∧
      Sought directory.fields term record
  ordered : found.Pairwise fun record other => record.id.number < other.id.number

theorem Tables.Sound.finds_matching {t : Tables} (sound : t.Sound) (directory : Directory)
    (term : Option String) :
    t.Finds directory term (t.matching (.inDirectory directory.id term directory.fields)) := by
  have lists := sound.lists_listing (.inDirectory directory.id term directory.fields) .ascending
  exact ⟨fun record => (lists.member record).trans (and_congr_right' Predicate.holds_inDirectory_iff),
    lists.ordered⟩

/-- A piece of a field is sought in the record that it was taken from, and so is every text with the same
folding. -/
theorem sought_piece {fields : List FieldDefinition} {field : FieldDefinition} {record : Record}
    {piece term : String} (listed : field ∈ fields)
    (taken : piece.toList <:+: (record.project field.name).toList)
    (same : Text.foldCase term = Text.foldCase piece) : Sought fields (some term) record := by
  rintro s ⟨⟩
  have folded : Text.foldChars term.toList = Text.foldChars piece.toList := String.ofList_injective same
  refine .inr (.inr ⟨field, listed, ?_⟩)
  rw [folded]
  exact Text.infix_foldChars taken

namespace Session

/-- What a session answers to all searches in a directory. -/
structure Searches (session : Session) (directory : Directory) (found : Option String → List Record) :
    Prop where
  answer : ∀ term, session.step (.run (.listAllRecords directory.id term)) =
    (.ok (.records (found term)), session)
  finds : ∀ term, session.working.Finds directory term (found term)
  pieces : ∀ record, session.working.records.get? record.id = some record → record.directory = directory.id →
    ∀ field ∈ directory.fields, ∀ piece : String, piece.toList <:+: (record.project field.name).toList →
      ∀ term, Text.foldCase term = Text.foldCase piece ∨ Text.SameButCase term piece →
        record ∈ found (some term)
  own : ∀ term, ∀ record ∈ found term, record.directory = directory.id

/-- After any run a search in a stored directory finds exactly the records in which its term is sought. -/
theorem searches_of_run (steps : List Step) {directory : Directory}
    (listed : directory ∈ (start.steps steps).2.working.directories.values) :
    ∃ found, (start.steps steps).2.Searches directory found := by
  have sound := (sound_start.steps steps).working
  generalize (start.steps steps).2 = session at listed sound ⊢
  have stored := sound.get?_of_mem_directories listed
  have finds := sound.finds_matching directory
  refine ⟨_, fun term => step_of_run (Operation.run_listAllRecords stored term), finds, ?_, ?_⟩
  · intro record recordStored owned field declared piece taken term same
    have folded : Text.foldCase term = Text.foldCase piece := same.elim id Text.SameButCase.foldCase_eq
    exact ((finds (some term)).member record).mpr ⟨recordStored, owned, sought_piece declared taken folded⟩
  · intro term record member
    exact (((finds term).member record).mp member).2.1

def companyShape : List FieldDefinition :=
  [⟨"Title", .text, none⟩, ⟨"Rate", .number, none⟩, ⟨"Owner", .reference, some ⟨1⟩⟩]

/-- A person and two companies.  The first letter of the person and of one company becomes two when it is
folded.  The field that the person was written under is replaced. -/
def recasedSteps : List Step :=
  [.run (.createDirectory default ⟨"Person", [⟨"Name", .text, none⟩]⟩),
    .run (.createDirectory .ones ⟨"Company", companyShape⟩),
    .run (.createRecord ⟨1⟩ (.ofList [("Name", .string "İzmir")])),
    .run (.createRecord ⟨2⟩
      (.ofList [("Title", .string " İzmir"), ("Rate", .string "12.500"), ("Owner", .integer 1)])),
    .run (.createRecord ⟨2⟩
      (.ofList [("Title", .string "Ada"), ("Rate", .integer 7), ("Owner", .string "1")])),
    .run (.updateDirectory ⟨1⟩ ⟨"Person", [⟨"Nickname", .text, none⟩]⟩)]

def recasedCompany : Record :=
  ⟨⟨2⟩, ⟨2⟩, .ofList [("Title", .text "İzmir"), ("Rate", .number ⟨12500, 3, by decide, by decide⟩),
    ("Owner", .reference ⟨1⟩)]⟩

/-- The company is found by its title and by a piece of its number.  The person with the same name is in another
directory, and under the present field of that directory there is nothing of it to be found. -/
theorem searches_of_recased_run :
    let session := (start.steps recasedSteps).2
    (∃ found, session.Searches ⟨⟨2⟩, .ones, "Company", companyShape⟩ found ∧
      found (some "İZ") = [recasedCompany] ∧ found (some "2.50") = [recasedCompany]) ∧
    ∃ found, session.Searches ⟨⟨1⟩, default, "Person", [⟨"Nickname", .text, none⟩]⟩ found ∧
      found (some "zmir") = [] := by
  intro session
  -- What is found is what is answered, and that can be computed.
  have found_eq {directory : Directory} {found : Option String → List Record}
      (searches : session.Searches directory found) {term : Option String} {records : List Record}
      (answered : (session.step (.run (.listAllRecords directory.id term))).1 = .ok (.records records)) :
      found term = records := by
    rw [searches.answer] at answered
    cases answered
    rfl
  rcases @searches_of_run recasedSteps ⟨⟨2⟩, .ones, "Company", companyShape⟩ (by decide +kernel)
    with ⟨companies, companySearches⟩
  rcases @searches_of_run recasedSteps ⟨⟨1⟩, default, "Person", [⟨"Nickname", .text, none⟩]⟩
    (by decide +kernel) with ⟨persons, personSearches⟩
  refine ⟨⟨companies, companySearches, ?_, ?_⟩, persons, personSearches, ?_⟩
  · exact found_eq companySearches (by decide +kernel)
  · exact found_eq companySearches (by decide +kernel)
  · exact found_eq personSearches (by decide +kernel)

end Session
end RecordDirectory
