import GuestImage.Path

/-!
# Images

An image stands for the root file system of a guest. It lies in a directory of its own as one file,
whose file system has blocks and inodes of fixed sizes.
-/

namespace GuestImage

/-- An image: its name, the directory its file lies in, and the size its content is said to have. -/
structure Image where
  uid : String
  objectPath : Path
  size : Int := 0
  deriving DecidableEq, Repr

namespace Image

/-- The name of the file. -/
def fileName : String := "IMAGE_FS"

/-- The octets in a block. -/
def blockSize : Nat := 4096

/-- The octets of an inode. -/
def inodeSize : Nat := 256

/-- The file of an image. -/
def fsPath (image : Image) : Path :=
  image.objectPath.child fileName

@[simp]
theorem parent_fsPath (image : Image) : image.fsPath.parent = image.objectPath :=
  Path.parent_child ..

end Image

/-- The octets in a gibibyte. -/
def gibibyte : Nat := 1024 * 1024 * 1024

/-- The least size of a file system, in blocks. -/
structure MinimumSize where
  blocks : Int
  blockSize : Int := Image.blockSize
  deriving DecidableEq, Repr

/-- The octets of a size. -/
def MinimumSize.bytes (m : MinimumSize) : Int :=
  m.blocks * m.blockSize

end GuestImage
