import SiteModules.Traced

namespace SiteModules

structure Host where
  files : FileTree
  cwd : Place
  home : Path
  packages : Path
  organization : Option String

namespace Host

def ofPlace (place : Place) : Path := ⟨.single, place⟩

def cwdPath (h : Host) : Path := ofPlace h.cwd

def absolute (h : Host) (p : Path) : Path := Path.absolute h.cwdPath p

def canonical (h : Host) (p : Path) : Path := Path.canonical h.cwdPath p

def ask (h : Host) (p : Path)
    (question : FileTree → Place → Path → Except FileFault Bool) : Traced Bool :=
  ⟨[.looked p], (question h.files h.cwd p).mapError fun f => .fault (.file f)⟩

def isDirectory (h : Host) (p : Path) : Traced Bool := h.ask p FileTree.isDirectory

def isFile (h : Host) (p : Path) : Traced Bool := h.ask p FileTree.isFile

def exists? (h : Host) (p : Path) : Traced Bool := h.ask p FileTree.exists?

def readExact (h : Host) (p : Path) : Except Fault (List Char) := do
  let bytes ← (h.files.read h.cwd p).mapError Fault.file
  match Text.Utf8.decode bytes with
  | some cs => return cs
  | none => throw .notUtf8

def readText (h : Host) (p : Path) : Except Fault (List Char) := Text.unixLines <$> h.readExact p

@[simp] theorem result_isDirectory (h : Host) (p : Path) :
    (h.isDirectory p).result =
      (h.files.isDirectory h.cwd p).mapError fun f => .fault (.file f) := rfl

@[simp] theorem result_isFile (h : Host) (p : Path) :
    (h.isFile p).result = (h.files.isFile h.cwd p).mapError fun f => .fault (.file f) := rfl

end Host

end SiteModules
