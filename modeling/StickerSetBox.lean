import StickerSetBox.QList
import StickerSetBox.Data
import StickerSetBox.GotSet
import StickerSetBox.InstallDone
import StickerSetBox.Box
import StickerSetBox.Layout
import StickerSetBox.Pointer
import StickerSetBox.Widget
import StickerSetBox.Outer
import StickerSetBox.Dialog
import StickerSetBox.View
import StickerSetBox.Lifecycle
