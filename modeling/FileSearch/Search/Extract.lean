import FileSearch.Index.Backend
import FileSearch.Results

set_option autoImplicit false

namespace FileSearch

def RawRecord.result? (record : RawRecord) : Option ResultRecord :=
  (record.text .path).map fun path =>
    { path := ⟨path⟩
      name := ((record.text .fileName).or (Path.fileName? ⟨path⟩)).getD ""
      kind? := record.text .kind
      size? := record.bytes .size
      createdAt? := record.time .createdAt
      modifiedAt? := record.time .modifiedAt }

namespace Backend

variable {ℓ W : Type}

/-- Reads at most `left` records from an index on, until there are `limit` results. Each record is
read at the time that the clock shows for its index. -/
def readResults (backend : Backend ℓ W) (handle : Nat) (clock : Nat → Nat) :
    (index left limit : Nat) → W → List ResultRecord × W
  | _, 0, _, world => ([], world)
  | _, _, 0, world => ([], world)
  | index, left + 1, limit + 1, world =>
    let (record?, world) := backend.resultAt handle index (clock index) world
    match record?.bind RawRecord.result? with
    | some result =>
      let (results, world) := readResults backend handle clock (index + 1) left limit world
      (result :: results, world)
    | none => readResults backend handle clock (index + 1) left (limit + 1) world

-- Reads results while time goes on: the first reading of the clock is for the number of records,
-- and then there is one for each record.
def extractAlong (backend : Backend ℓ W) (handle limit : Nat) (clock : Nat → Nat) (world : W) :
    List ResultRecord × W :=
  let (count, world) := backend.resultCount handle (clock 0) world
  readResults backend handle (fun index => clock (index + 1)) 0 count limit world

def extract (backend : Backend ℓ W) (handle limit now : Nat) (world : W) :
    List ResultRecord × W :=
  backend.extractAlong handle limit (fun _ => now) world

end Backend

end FileSearch
