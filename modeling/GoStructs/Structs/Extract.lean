import GoStructs.Config.Load
import GoStructs.Import.Resolve
import GoStructs.Structs.Resolve
/-! # Extracting the structs of a file

All that is extracted from a file: its package with the import path, and its structs with their
fields. -/

namespace GoStructs

/-- What a source file declares, given its import path. -/
def parsedFile (f : SourceFile) (importPath : String) : ParsedFile :=
  ⟨⟨f.packageName, importPath⟩, resolveFields (rawStructs f)⟩

/-- Extracts the structs of a file under a configuration. -/
def extractStructsWith (w : World) (c : Config) (path : Path) : Told (Except Failure ParsedFile) :=
  (SourceFile.read w path).andThen fun result =>
    match result with
    | .error e => .quiet (.error e)
    | .ok f =>
      (Import.importPath w c path).andThen fun importPath =>
        let raws := rawStructs f
        let file := parsedFile f importPath
        ⟨.ok file,
          (unsupportedMembers raws).map Event.unsupportedMember
            ++ (undeclaredMembers raws).map (fun m => Event.undeclaredMember m.1 m.2)
            ++ [.extracted file.structs.length path importPath]⟩

/-- Extracts the structs of a file under the configuration for its directory. -/
def extractStructs (w : World) (path : Path) : Told (Except Failure ParsedFile) :=
  (Config.load w (path.parent?.getD ⟨"."⟩)).andThen fun c => extractStructsWith w c path

end GoStructs
