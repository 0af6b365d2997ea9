import GridX64.AcpiOrder
import GridX64.AcpiSummary
import GridX64.AcpiSearch
import GridX64.BackspaceUndo
import GridX64.Checksum
import GridX64.ConsoleInit
import GridX64.FieldWidth
import GridX64.ItoaEncoder
import GridX64.KernelMain
import GridX64.KernelReadout
import GridX64.MadtCount
import GridX64.MemmoveAddress
import GridX64.MemoryMap
import GridX64.OneMemory
import GridX64.PicHistory
import GridX64.PicMasks
import GridX64.PicNesting
import GridX64.PrintfOverflow
import GridX64.PsfHeader
import GridX64.RgbDark
import GridX64.RgbDepths
import GridX64.RgbGeometry
import GridX64.RgbOverprint
import GridX64.ScreenAgreement
import GridX64.ScreenText
import GridX64.VgaCursor
import GridX64.VgaPage
