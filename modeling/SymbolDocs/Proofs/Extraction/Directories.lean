import SymbolDocs.Proofs.Extraction.Reading
import SymbolDocs.Proofs.Files.Path
/-!
The directories that a configuration names. The extractor runs in the source directory and follows its
paths from there. The output directory is the one that was meant, wherever that is; the source
directory itself is written as it is given and found only if its path leads back to it.
-/

namespace SymbolDocs.Doxyfile

open SymbolDocs.Path (place route isAbsolute)

theorem directories_found (cwd : String) {s : ExtractionSettings} (houtput : s.xmlOutput ≠ "") :
    let here := place [] cwd
    let there := place here s.sourceDirectory
    (∀ (fs : FileSystem) (dir : List String), fs.cwd = here →
      fs.locate s.sourceDirectory = .ok dir → dir = there) ∧
    ∃ d, ofSettings (Path.names cwd) s = .ok d ∧
      ((∀ a ∈ d, '\n' ∉ a.2.toList) → read d.text = d.map some) ∧
      (∃ output, d.lookup "XML_OUTPUT" = some output ∧ place there output = place here s.xmlOutput) ∧
      ∃ includePath, d.lookup "INCLUDE_PATH" = some includePath ∧
        (place there includePath = place here s.sourceDirectory ↔
          isAbsolute s.sourceDirectory = true ∨
            (route s.sourceDirectory).down.length = (route s.sourceDirectory).up ∨
            here.length ≤ (route s.sourceDirectory).up ∧
              (route s.sourceDirectory).down.length ≤ (route s.sourceDirectory).up) := by
  intro here there
  obtain ⟨output, habsolute⟩ := exists_absolute (Path.names cwd) houtput
  obtain ⟨d, hd, hfor⟩ := exists_isFor habsolute
  refine ⟨?_, d, hd, read_text hfor, ?_, ?_⟩
  · intro fs dir hcwd hdir
    rw [FileSystem.eq_place_of_locate hdir, hcwd]
  · exact ⟨output, hfor.xmlOutput, Path.place_absolute habsolute there⟩
  · exact ⟨s.sourceDirectory, hfor.includePath, Path.place_place_eq_iff here s.sourceDirectory⟩

theorem directories_found_beside :
    let s : ExtractionSettings := { sourceDirectory := "../lib/", xmlOutput := "./out//xml" }
    s.xmlOutput ≠ "" ∧ ∃ d, ofSettings (Path.names "/home/build") s = .ok d ∧
      (∃ output, d.lookup "XML_OUTPUT" = some output ∧
        place ["home", "lib"] output = ["home", "build", "out", "xml"]) ∧
      ∃ includePath, d.lookup "INCLUDE_PATH" = some includePath ∧
        place ["home", "lib"] includePath = ["home", "lib"] := by
  intro s
  have houtput : s.xmlOutput ≠ "" := by decide
  have hthere : place (place [] "/home/build") s.sourceDirectory = ["home", "lib"] := by decide
  have hmeant : place (place [] "/home/build") s.xmlOutput = ["home", "build", "out", "xml"] := by
    decide
  obtain ⟨-, d, hd, -, ⟨output, houtput', hsame⟩, includePath, hinclude, hiff⟩ :=
    directories_found "/home/build" houtput
  rw [hthere] at hsame hiff
  rw [hmeant] at hsame
  refine ⟨houtput, d, hd, ⟨output, houtput', hsame⟩, includePath, hinclude, hiff.mpr ?_⟩
  decide

theorem directory_missed_below :
    let s : ExtractionSettings := { sourceDirectory := "src", sources := ["a.h"], xmlOutput := "/out" }
    s.xmlOutput ≠ "" ∧ ∃ d, ofSettings (Path.names "/") s = .ok d ∧
      read d.text = d.map some ∧ d.lookup "INCLUDE_PATH" = some "src" ∧
      place (place [] "/") s.sourceDirectory = ["src"] ∧ place ["src"] "src" = ["src", "src"] := by
  intro s
  have habsolute : Path.absolute (Path.names "/") s.xmlOutput = .ok "/out" := by decide +kernel
  obtain ⟨d, hd, hfor⟩ := exists_isFor habsolute
  have hlines : ∀ a ∈ d, '\n' ∉ a.2.toList := by
    obtain rfl := Except.ok.inj hd
    decide +kernel
  exact ⟨by decide, d, hd, read_text hfor hlines, hfor.includePath, by decide, by decide⟩

end SymbolDocs.Doxyfile
